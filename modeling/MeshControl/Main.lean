import MeshControl.Api
import MeshControl.Startup

/-!
The program. A discovery process answers requests that it reads from its input, one to a line
with the method and the path; it is shut down by the end of the input. A proxy process shows how
the proxy is to be started and with which bootstrap.
-/
namespace MeshControl.Shell

open CommandLine

def variableNames : List String := ["PILOT_LOG", "INSTANCE_IP", "POD_NAME", "POD_NAMESPACE"]

def environment : IO (String → Option String) := do
  let pairs ← variableNames.mapM fun name => do return (name, ← IO.getEnv name)
  return fun name => (pairs.lookup name).join

def content (path : String) : IO FileContent := do
  try return .octets (← IO.FS.readBinFile path).toList
  catch
    | .noFileOrDirectory .. => return .missing
    | _ => return .directory

def contents (paths : List String) : IO (String → FileContent) := do
  let pairs ← paths.mapM fun path => do return (path, ← content path)
  return fun path => (pairs.lookup path).getD .missing

def complain (e : Failure) : IO UInt32 := do
  match e with
  | .told texts => IO.eprintln ("Error: " ++ Text.join ": " texts)
  | .durationRange => IO.eprintln "Error: a duration is out of range"
  | .overflow => IO.eprintln s!"Error: {StoreError.overflow.text}"
  return 1

partial def serve (input output : IO.FS.Stream) (p : Startup.Plane) : IO UInt32 := do
  let line ← input.getLine
  if line.isEmpty then return 0
  let (method, path) := Text.splitFirst ' ' (String.ofList (Text.trimBlanks line.toList))
  match Http.pathOf? path with
  | none => serve input output p
  | some path =>
    let (response, p) := p.discover (fun _ s => s) method path
    output.putStrLn (toString response.status)
    output.putStrLn response.body
    output.flush
    serve input output p.settle

def runDiscovery (o : DiscoveryOptions) : IO UInt32 := do
  let read ← contents ([some o.meshConfig, o.services, o.config].filterMap id)
  match Startup.discovery read o with
  | .error e => complain e
  | .ok p => serve (← IO.getStdin) (← IO.getStdout) p

def runProxy (o : ProxyOptions) : IO UInt32 := do
  let meshFile ← contents [o.meshConfig]
  match Startup.proxy meshFile o with
  | .error e => complain e
  | .ok (launch, bootstrap) =>
    IO.println (Text.join " " (launch.binary :: launch.arguments 0))
    IO.println bootstrap.json.pretty
    return 0

def run (line : List String) : IO UInt32 := do
  match Arguments.read (← environment) line with
  | .error .version =>
    IO.println ("pilot " ++ Api.version)
    return 0
  | .error e =>
    IO.eprintln ("error: " ++ e.text)
    return 2
  | .ok (_, .discovery o) => runDiscovery o
  | .ok (_, .proxy o) => runProxy o

end MeshControl.Shell

def main (line : List String) : IO UInt32 := MeshControl.Shell.run line
