import MeshControl.Service

/-!
Discovery keys: `host`, `host:port,port` or `host:port,port:tags;tags`. Names of ports and tag
sets are sorted, so a key does not depend on their order. A lone port without a name and
without tags is left out.
-/
namespace MeshControl

/-- What a discovery key names. -/
structure ServiceKey where
  hostname : String
  ports : List String
  tags : TagsList
deriving DecidableEq

namespace ServiceKey

/-- A lone empty tag set is no condition. -/
def conditions (tags : TagsList) : TagsList :=
  match tags with
  | [t] => if t.isEmpty then [] else [t]
  | ts => ts

def isBare (ports : List String) (tags : TagsList) : Bool :=
  tags.isEmpty && (ports == [] || ports == [""])

def encode (hostname : String) (ports : List String) (tags : TagsList) : String :=
  let tags := conditions tags
  if isBare ports tags then hostname
  else
    let key := hostname ++ ":" ++ Text.join "," (Tags.sortTexts ports)
    if tags.isEmpty then key
    else key ++ ":" ++ Text.join ";" (Tags.sortTexts (tags.map Tags.text))

/-- Reads a key. Without a part for the ports it names the one port without a name. -/
def parse (key : String) : ServiceKey :=
  match Text.splitUpTo ':' 2 key with
  | [] => ⟨"", [""], []⟩
  | [hostname] => ⟨hostname, [""], []⟩
  | [hostname, ports] => ⟨hostname, Text.split ',' ports, []⟩
  | hostname :: ports :: tags :: _ =>
    ⟨hostname, Text.split ',' ports,
      if tags.isEmpty then [] else (Text.split ';' tags).map Tags.ofText⟩

def text (k : ServiceKey) : String := encode k.hostname k.ports k.tags

end ServiceKey

/-- The discovery key of one port and one tag set of a service. -/
def Service.key (s : Service) (p : Port) (t : Tags) : String :=
  ServiceKey.encode s.hostname [p.name] [t]

end MeshControl
