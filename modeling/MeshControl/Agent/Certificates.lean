import MeshControl.Agent.Bootstrap
import MeshControl.Build.Ingress
import MeshControl.Failure
import MeshControl.Node
import MeshControl.Path
import MeshControl.Sha256

/-!
The certificates that a proxy reads when it starts. Ingress proxies have those of their own
directory; other proxies have the certificates of their workload if the mesh uses mutual TLS.
-/
namespace MeshControl.Certificates

/-- The files that are watched, none if the proxy has no certificates. -/
def watched (m : Mesh) (role : Role) : Option (List String) :=
  if role = .ingress then
    some ([Build.ingressCertFile, Build.ingressKeyFile].map (Path.join Build.ingressCertsDirectory))
  else if m.isMutualTls then
    some ([Build.certChainFile, Build.keyFile, Build.rootCertFile].map (Path.join m.certsPath))
  else none

/-- The contents of files one after the other. Missing files are passed over, and there is no
result if something else than a file stands in the place of one. -/
def contents (read : String → FileContent) : List String → Option (List UInt8)
  | [] => some []
  | path :: paths =>
    match read path with
    | .missing => contents read paths
    | .directory => none
    | .octets bytes => (contents read paths).map (bytes ++ ·)

/-- The digest of the watched files as they are now. -/
def digest (m : Mesh) (role : Role) (read : String → FileContent) : Option String :=
  (((watched m role).bind (contents read)).map Sha256.hex)

/-- The bootstrap for the certificates as they are now. -/
def bootstrap (m : Mesh) (role : Role) (read : String → FileContent) : Bootstrap :=
  { Bootstrap.ofMesh m with certificates := digest m role read }

end MeshControl.Certificates
