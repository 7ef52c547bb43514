import MeshControl.Mesh

/-!
The configuration a proxy starts with. It says where the discovery service is; all else the
proxy fetches from there.
-/
namespace MeshControl

structure Bootstrap where
  discoveryAddress : String
  adminPort : Nat
  /-- In milliseconds, as is the timeout. -/
  refreshDelay : Nat
  connectTimeout : Nat
  /-- The digest of the proxy's certificates. It is not written, but if it changes the bootstrap
  is another one, and the proxy is started again. -/
  certificates : Option String
deriving DecidableEq, Repr, Inhabited

namespace Bootstrap

def ofMesh (m : Mesh) : Bootstrap where
  discoveryAddress := m.discoveryAddress
  adminPort := m.adminPort
  refreshDelay := m.refreshDelay.millis
  connectTimeout := m.connectTimeout.millis
  certificates := none

/-- The cluster behind which one part of the discovery service is called. -/
def clusterJson (b : Bootstrap) (name : String) : Json :=
  .obj [
    ("name", .str name),
    ("connect_timeout_ms", .nat b.connectTimeout),
    ("type", .str "strict_dns"),
    ("lb_type", .str "round_robin"),
    ("hosts", .arr [.obj [("url", .str s!"tcp://{b.discoveryAddress}")]])]

def sourceJson (b : Bootstrap) (cluster : Json) : Json :=
  .obj [("cluster", cluster), ("refresh_delay_ms", .nat b.refreshDelay)]

def adminJson (b : Bootstrap) : Json :=
  .obj [
    ("access_log_path", .str "/dev/stdout"),
    ("address", .str s!"tcp://127.0.0.1:{b.adminPort}")]

def clustersJson (b : Bootstrap) : Json :=
  .obj [
    ("clusters", .arr [b.clusterJson "rds", b.clusterJson "lds"]),
    ("sds", b.sourceJson (b.clusterJson "sds")),
    ("cds", b.sourceJson (b.clusterJson "cds"))]

def json (b : Bootstrap) : Json :=
  .obj [
    ("listeners", .arr []),
    ("lds", b.sourceJson (.str "lds")),
    ("admin", b.adminJson),
    ("cluster_manager", b.clustersJson)]

end Bootstrap

end MeshControl
