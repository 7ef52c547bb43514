import MeshControl.Table
import MeshControl.Yaml.Lexer

/-!
The documents of a YAML text as trees. An alias stands for the tree of its anchor; inside of
that very tree it has none.
-/
namespace MeshControl.Yaml

inductive Node where
  | scalar (tag : Option String) (style : Style) (text : String)
  | sequence (tag : Option String) (items : List Node)
  | mapping (tag : Option String) (entries : List (Node × Node))
  /-- An alias for a tree that it is part of. -/
  | loop
deriving Inhabited

namespace Node

/-- What stands where nothing is written. -/
def empty : Node := .scalar none .plain ""

end Node

/-- The tokens left, and the trees that anchors stand for, as far as they are complete. -/
structure Reading where
  tokens : List Token
  anchors : List (String × Option Node)

abbrev Reader := StateT Reading Option

namespace Reader

def next? : Reader (Option Token) := do return (← get).tokens.head?

def drop : Reader Unit := modify fun r => { r with tokens := r.tokens.drop 1 }

def expect (t : Token) : Reader Unit := do
  if (← next?) = some t then drop else failure

/-- Whether the next token is among some, the end of the text counting as none of them. -/
def nextIn (ts : List Token) : Reader Bool := do return (← next?).any ts.contains

/-- Names a tree, in place of the one that had the name. -/
def bind (name : String) (n : Option Node) : Reader Unit :=
  modify fun r => { r with anchors := (name, n) :: r.anchors }

def lookup (name : String) : Reader Node := do
  match Entries.find? name (← get).anchors with
  | some (some n) => return n
  | some none => return .loop
  | none => failure

/-- The handles known to every document. -/
def standardHandles : List (String × String) :=
  [("!", "!"), ("!!", "tag:yaml.org,2002:")]

/-- The full text of a tag. -/
def fullTag (handles : List (String × String)) (handle suffix : String) : Reader String :=
  if handle.isEmpty then return suffix
  else match Entries.find? handle (handles ++ standardHandles) with
    | some expansion => return expansion ++ suffix
    | none => failure

/-- An anchor and a tag in either order. -/
def properties (handles : List (String × String)) :
    Reader (Option String × Option String) := do
  match ← next? with
  | some (.anchor name) =>
    drop
    match ← next? with
    | some (.tag handle suffix) =>
      drop
      return (some name, some (← fullTag handles handle suffix))
    | _ => return (some name, none)
  | some (.tag handle suffix) =>
    drop
    let tag ← fullTag handles handle suffix
    match ← next? with
    | some (.anchor name) =>
      drop
      return (some name, some tag)
    | _ => return (none, some tag)
  | _ => return (none, none)

mutual
/-- Reads a tree. `block` says whether a block may start here, `flush` whether a sequence may
start at the indentation of the mapping around it. -/
def node (handles : List (String × String)) (block flush : Bool) : Nat → Reader Node
  | 0 => failure
  | fuel + 1 => do
    match ← next? with
    | some (.alias name) =>
      drop
      lookup name
    | _ =>
      let (anchor, tag) ← properties handles
      if let some name := anchor then bind name none
      let n ← content handles block flush anchor.isSome tag fuel
      if let some name := anchor then bind name (some n)
      return n

def content (handles : List (String × String)) (block flush anchored : Bool)
    (tag : Option String) : Nat → Reader Node
  | 0 => failure
  | fuel + 1 => do
    match ← next? with
    | some .blockEntry =>
      if flush then return .sequence tag (← flushItems handles fuel)
      else absent anchored tag
    | some (.scalar style text) =>
      drop
      return .scalar (if tag = some "!" then none else tag) style text
    | some .flowSequence =>
      drop
      return .sequence tag (← flowItems handles true fuel)
    | some .flowMapping =>
      drop
      return .mapping tag (← flowEntries handles true fuel)
    | some .blockSequence =>
      if block then
        drop
        return .sequence tag (← blockItems handles fuel)
      else absent anchored tag
    | some .blockMapping =>
      if block then
        drop
        return .mapping tag (← blockEntries handles fuel)
      else absent anchored tag
    | _ => absent anchored tag

/-- An anchor or a tag may stand alone. -/
def absent (anchored : Bool) (tag : Option String) : Reader Node :=
  if anchored || tag.isSome then return .scalar tag .plain "" else failure

/-- A tree inside a block, empty if one of some tokens is next. -/
def blockNode (handles : List (String × String)) (flush : Bool) (stops : List Token) :
    Nat → Reader Node
  | 0 => failure
  | fuel + 1 => do
    if ← nextIn stops then return .empty else node handles true flush fuel

def flowNode (handles : List (String × String)) (stops : List Token) : Nat → Reader Node
  | 0 => failure
  | fuel + 1 => do
    if ← nextIn stops then return .empty else node handles false false fuel

def blockItems (handles : List (String × String)) : Nat → Reader (List Node)
  | 0 => failure
  | fuel + 1 => do
    match ← next? with
    | some .blockEntry =>
      drop
      let n ← blockNode handles false [.blockEntry, .blockEnd] fuel
      return n :: (← blockItems handles fuel)
    | some .blockEnd =>
      drop
      return []
    | _ => failure

def flushItems (handles : List (String × String)) : Nat → Reader (List Node)
  | 0 => failure
  | fuel + 1 => do
    match ← next? with
    | some .blockEntry =>
      drop
      let n ← blockNode handles false [.blockEntry, .key, .value, .blockEnd] fuel
      return n :: (← flushItems handles fuel)
    | _ => return []

def blockEntries (handles : List (String × String)) : Nat → Reader (List (Node × Node))
  | 0 => failure
  | fuel + 1 => do
    match ← next? with
    | some .key =>
      drop
      let k ← blockNode handles true [.key, .value, .blockEnd] fuel
      let v ← blockValue handles fuel
      return (k, v) :: (← blockEntries handles fuel)
    | some .blockEnd =>
      drop
      return []
    | _ => failure

def blockValue (handles : List (String × String)) : Nat → Reader Node
  | 0 => failure
  | fuel + 1 => do
    if (← next?) = some .value then
      drop
      blockNode handles true [.key, .value, .blockEnd] fuel
    else return .empty

def flowItems (handles : List (String × String)) (first : Bool) : Nat → Reader (List Node)
  | 0 => failure
  | fuel + 1 => do
    if (← next?) = some .flowSequenceEnd then
      drop
      return []
    if !first then expect .flowEntry
    match ← next? with
    | some .flowSequenceEnd =>
      drop
      return []
    | some .key =>
      drop
      let k ← flowNode handles [.value, .flowEntry, .flowSequenceEnd] fuel
      let v ← flowValue handles .flowSequenceEnd fuel
      return .mapping none [(k, v)] :: (← flowItems handles false fuel)
    | _ =>
      let n ← node handles false false fuel
      return n :: (← flowItems handles false fuel)

def flowEntries (handles : List (String × String)) (first : Bool) :
    Nat → Reader (List (Node × Node))
  | 0 => failure
  | fuel + 1 => do
    if (← next?) = some .flowMappingEnd then
      drop
      return []
    if !first then expect .flowEntry
    match ← next? with
    | some .flowMappingEnd =>
      drop
      return []
    | some .key =>
      drop
      let k ← flowNode handles [.value, .flowEntry, .flowMappingEnd] fuel
      let v ← flowValue handles .flowMappingEnd fuel
      return (k, v) :: (← flowEntries handles false fuel)
    | _ =>
      let k ← node handles false false fuel
      return (k, .empty) :: (← flowEntries handles false fuel)

def flowValue (handles : List (String × String)) (close : Token) : Nat → Reader Node
  | 0 => failure
  | fuel + 1 => do
    if (← next?) = some .value then
      drop
      flowNode handles [.flowEntry, close] fuel
    else return .empty
end

/-- Reads directives: the version at most once, and one that is known; no handle twice. -/
def directives : Nat → Bool → List (String × String) → Reader (List (String × String))
  | 0, _, _ => failure
  | fuel + 1, versioned, handles => do
    match ← next? with
    | some (.version major minor) =>
      if versioned || major != 1 || (minor != 1 && minor != 2) then failure
      drop
      directives fuel true handles
    | some (.tagHandle handle expansion) =>
      if handles.any (·.1 = handle) then failure
      drop
      directives fuel versioned ((handle, expansion) :: handles)
    | _ => return handles

/-- Fuel for what is left: every tree and entry uses up a token after a few calls. -/
def fuel : Reader Nat := do return 8 * (← get).tokens.length + 8

/-- The tree of a document. Only the first one may do without the mark at its start. -/
def root (first : Bool) : Reader Node := do
  match ← next? with
  | none => failure
  | some t =>
    if first && !t.isDirective && t != .documentStart then
      node [] true false (← fuel)
    else
      let handles ← directives (← fuel) false []
      expect .documentStart
      match ← next? with
      | none => return .empty
      | some t =>
        if t.isDirective || t = .documentStart || t = .documentEnd then return .empty
        else node handles true false (← fuel)

/-- A document with the mark at its end, if there is one. -/
def document (first : Bool) : Reader Node := do
  let n ← root first
  match ← next? with
  | some .fault => failure
  | some .documentEnd =>
    drop
    return n
  | _ => return n

end Reader

/-- The documents of a text in turn. Where one cannot be read there is none, and it is the
last. -/
def documentsFrom : Nat → Bool → List Token → List (Option Node)
  | 0, _, _ => []
  | fuel + 1, first, ts =>
    let ts := if first then ts else ts.dropWhile (· = .documentEnd)
    if ts.isEmpty then []
    else match (Reader.document first).run ⟨ts, []⟩ with
      | none => [none]
      | some (n, r) => some n :: documentsFrom fuel false r.tokens

def documents (s : String) : List (Option Node) :=
  let ts := tokens s
  documentsFrom (ts.length + 1) true ts

/-- The tree of a text that holds one document at most. -/
def document? (s : String) : Option Node :=
  match documents s with
  | [] => some .empty
  | [n] => n
  | _ => none

end MeshControl.Yaml
