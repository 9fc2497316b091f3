import CompositeApps.App.Finalizer
import CompositeApps.Failure
import CompositeApps.Reconcile.Pass

/-!
The gate before the work of a pass. Objects are made only for an app that lives and carries the
finalizer; an app that is being deleted loses it once all that has to be done before is done.
-/

namespace CompositeApps

inductive Gate where
  /-- The pass goes on with this app, as it is stored now. -/
  | proceed (app : CompositeApp)
  /-- The finalizer is gone, and the app with it unless others hold it. -/
  | finalized
  /-- The finalizer was gone before. -/
  | released
  /-- Another writer was faster. -/
  | retry
  deriving DecidableEq, Inhabited

namespace Pass

/-- Stores an app; nothing if another writer was faster. A store that does not say what it has
stored is taken to have stored what it was given. -/
def persist (app : CompositeApp) : Pass (Except PassError (Option CompositeApp)) := do
  match ← perform (.replace (.app app)) with
  | .ok reply => return .ok (some ((reply.bind (·.app?)).getD app))
  | .error (.conflict _) => return .ok none
  | .error e => return .error (.store e)

def register (app : CompositeApp) : Pass (Except PassError Gate) := do
  return (← persist app.withFinalizer).map fun
    | some persisted => .proceed persisted
    | none => .retry

def release (app : CompositeApp) : Pass (Except PassError Gate) := do
  match ← runHook app with
  | .error reason => return .error (.hook reason)
  | .ok () => return (← persist app.withoutFinalizer).map fun
    | some _ => .finalized
    | none => .retry

def gate (app : CompositeApp) : Pass (Except PassError Gate) :=
  match FinalizerState.of app with
  | .unregistered => register app
  | .registered => return .ok (.proceed app)
  | .finalizing => release app
  | .released => return .ok .released

end Pass

end CompositeApps
