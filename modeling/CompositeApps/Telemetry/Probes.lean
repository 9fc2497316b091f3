import CompositeApps.Json.Printer
import CompositeApps.Telemetry.Exposition

/-!
The answers to those who ask the operator how it is: whether it is alive, whether it is ready, and
what it has counted.
-/

namespace CompositeApps

structure ProbeState where
  ready : Bool := false
  metrics : Metrics := .empty
  deriving Inhabited

structure ProbeResponse where
  status : Nat
  contentType : Option String := none
  /-- The methods that are allowed, where the one that was used is not. -/
  allow : Option String := none
  body : String := ""
  deriving DecidableEq, Repr, Inhabited

namespace ProbeResponse

def ofStatus (status : Nat) (word : String) : ProbeResponse :=
  { status
    contentType := some "application/json"
    body := (Json.obj [("status", .str word)]).render }

def notFound : ProbeResponse := { status := 404 }

def notAllowed : ProbeResponse := { status := 405, allow := some "GET,HEAD" }

end ProbeResponse

namespace ProbeState

/-- The path of a request target: what comes before a query or a fragment. -/
def pathOf (target : String) : String :=
  String.ofList (target.toList.takeWhile fun c => c ≠ '?' && c ≠ '#')

def read? (s : ProbeState) (path : String) : Option ProbeResponse :=
  if path = "/healthz" then some (.ofStatus 200 "ok")
  else if path = "/readyz" then
    some (if s.ready then .ofStatus 200 "ready" else .ofStatus 503 "starting")
  else if path = "/metrics" then
    some { status := 200, contentType := some "text/plain; version=0.0.4"
           body := s.metrics.render }
  else none

/-- The answer to a request. Asked for the head alone, the body is left out. -/
def respond (s : ProbeState) (method target : String) : ProbeResponse :=
  match s.read? (pathOf target) with
  | none => .notFound
  | some response =>
    if method = "GET" then response
    else if method = "HEAD" then { response with body := "" }
    else .notAllowed

end ProbeState

end CompositeApps
