import CompositeApps.Cluster.Faults
import CompositeApps.Reconcile.Reconciler
import CompositeApps.Telemetry.Metrics

/-!
Everything that a pass acts on, in memory: a cluster with faults, a hook that may fail, the events
that were published and the counts.
-/

namespace CompositeApps

structure World where
  store : FaultyCluster := {}
  /-- With what the hook fails, if it does. -/
  hookFailure : Option String := none
  hookRuns : Nat := 0
  events : List Event := []
  changes : List Change := []
  metrics : Metrics := .empty
  deriving Inhabited

namespace World

def call (c : Call) (w : World) : Aborting Reply × World :=
  let (reply, store) := w.store.perform c
  (reply, { w with store := store })

def preDelete (_app : CompositeApp) (w : World) : Aborting (Except String Unit) × World :=
  let result := match w.hookFailure with
    | some reason => .error reason
    | none => .ok ()
  (.ok result, { w with hookRuns := w.hookRuns + 1 })

def publish (_app : CompositeApp) (event : Event) (w : World) : World :=
  { w with events := w.events ++ [event] }

def record (change : Change) (w : World) : World :=
  { w with
    changes := w.changes ++ [change]
    metrics := w.metrics.recordChange change.kind change.outcome.name }

def handler : Handler World := ⟨call, preDelete, publish, record⟩

/-- Runs a part of a pass with a log of changes of its own. -/
def run {α : Type} (p : Pass α) (w : World) : Aborting α × World :=
  p.run handler { w with changes := [] }

def reconcile (app : CompositeApp) (elapsed : Duration) (w : World) :
    Except PassError PassOutcome × World :=
  let (ended, w) := w.run (Pass.reconcile app)
  let result := PassError.ofAbort ended
  (result, { w with metrics := w.metrics.recordPass (passLabel result) elapsed })

end World

end CompositeApps
