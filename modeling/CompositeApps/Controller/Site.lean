import CompositeApps.Api.Recorder
import CompositeApps.Api.Server
import CompositeApps.Reconcile.Reconciler
import CompositeApps.Telemetry.Metrics

/-!
What a controller works on: a server that is reached by requests, a clock, the events published so
far and the counts.
-/

namespace CompositeApps

structure SentRequest where
  time : Nat
  request : HttpRequest
  deriving DecidableEq, Inhabited

/-- The time to the nearest second; half a second counts as a whole one. -/
def SentRequest.second (r : SentRequest) : Nat :=
  (r.time + 500) / 1000

structure Link where
  server : ApiServer
  clock : Nat := 0
  log : List SentRequest := []
  deriving Inhabited

namespace Link

def transport : Transport Link := fun r link =>
  let (response, server) := link.server.respond r
  (.ok response, { link with server, log := link.log ++ [⟨link.clock, r⟩] })

def now (link : Link) : Timestamp :=
  ⟨link.clock / 1000⟩

end Link

structure Site where
  link : Link
  recorder : Recorder
  metrics : Metrics := .empty
  deriving Inhabited

namespace Site

def call (c : Call) (s : Site) : Aborting Reply × Site :=
  let (reply, link) := ApiClient.perform Link.transport c s.link
  (.ok reply, { s with link })

def preDelete (_app : CompositeApp) (s : Site) : Aborting (Except String Unit) × Site :=
  (.ok (.ok ()), s)

def publish (app : CompositeApp) (event : Event) (s : Site) : Site :=
  let (recorder, link) := s.recorder.publish Link.transport s.link.now app event s.link
  { s with recorder, link }

def record (change : Change) (s : Site) : Site :=
  { s with metrics := s.metrics.recordChange change.kind change.outcome.name }

def handler : Handler Site := ⟨call, preDelete, publish, record⟩

/-- Runs a pass and counts it; the clock stands still meanwhile. -/
def reconcile (app : CompositeApp) (s : Site) : Except PassError PassOutcome × Site :=
  let (ended, s) := (Pass.reconcile app).run handler s
  let result := PassError.ofAbort ended
  (result, { s with metrics := s.metrics.recordPass (passLabel result) .zero })

end Site

end CompositeApps
