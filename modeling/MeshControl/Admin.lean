import MeshControl.Discovery.Metrics
import MeshControl.Http

/-!
The requests by which a process is watched: whether it runs, whether it is ready, and what it
has counted.
-/
namespace MeshControl.Admin

def metricsType : String := "application/openmetrics-text; version=1.0.0; charset=utf-8"

def plainText (status : Nat) (body : String) : Http.Response :=
  .ofType status "text/plain" body

def handle (ready : Bool) (metrics : Discovery.Metrics) (method path : String) :
    Http.Response :=
  if method ≠ "GET" ∧ method ≠ "HEAD" then .plain 405 ""
  else match path with
    | "/ready" => if ready then plainText 200 "ready\n" else plainText 500 "not ready\n"
    | "/live" => plainText 200 "live\n"
    | "/metrics" => .ofType 200 metricsType metrics.text
    | _ => .plain 404 ""

end MeshControl.Admin
