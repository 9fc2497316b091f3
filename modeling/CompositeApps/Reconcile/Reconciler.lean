import CompositeApps.App.Validation
import CompositeApps.Reconcile.Gate
import CompositeApps.Reconcile.Status

/-!
One pass over an app: the gate, the check of its spec, the objects of each kind in order, and the
status. What fails for one kind does not keep the others from being brought in line.
-/

namespace CompositeApps

inductive PassOutcome where
  /-- Every kind was looked after; `success` is false if an object failed. -/
  | converged (success : Bool) (writes : Nat)
  /-- A write lost a race; the app is to be read again. -/
  | retry
  /-- The spec is not valid; no object was touched. -/
  | rejected (cause : ValidationError)
  /-- The finalizer was released. -/
  | finalized
  /-- The finalizer had been released before. -/
  | released
  deriving DecidableEq, Repr, Inhabited

def PassOutcome.label : PassOutcome → String
  | converged true _ => "converged"
  | converged false _ => "degraded"
  | retry => "retry"
  | rejected _ => "rejected"
  | finalized => "finalized"
  | released => "released"

structure Progress where
  status : AppStatus := {}
  failures : List String := []
  /-- Whether the work on some kind lost a race. -/
  raced : Bool := false
  changes : List Change := []
  deriving DecidableEq, Inhabited

namespace Progress

def success (p : Progress) : Bool :=
  p.failures.isEmpty

def message? (p : Progress) : Option String :=
  if p.success then none else some ("; ".intercalate p.failures)

def finalStatus (p : Progress) (app : CompositeApp) : AppStatus :=
  AppStatus.finished { p.status with success := p.success, message := p.message? } app

def writes (p : Progress) : Nat :=
  Change.writes p.changes

/-- Whether users are told what was done: all went well, and something was done. -/
def isNews (p : Progress) : Bool :=
  p.success && !p.raced && 0 < p.writes

def failed (p : Progress) (e : ApplyError) : Progress :=
  { p with failures := p.failures ++ [e.message] }

end Progress

/-- The status of an app whose spec is not valid: what was known before, and the violation. -/
def CompositeApp.rejectedStatus (app : CompositeApp) (cause : ValidationError) : AppStatus :=
  { app.status.getD {} with
    success := false
    message := some cause.message
    observedGeneration := app.metadata.generation }

namespace Pass

/-- Takes in the results for a kind. A lost race is not told to the users. -/
def settleKind (app : CompositeApp) (p : Progress) (results : List (Except ApplyError Change)) :
    Pass Progress := do
  let p := { p with changes := p.changes ++ Change.ofResults results }
  match ApplyError.chief? results with
  | none => return p
  | some e =>
    if e.isRetryable then return { p with raced := true }
    else
      tell app (.applyFailed e.message)
      return p.failed e

def settleStatus (app : CompositeApp) (p : Progress) (status : AppStatus)
    (error : Option ApplyError) : Pass Progress := do
  let p := { p with status := status }
  match error with
  | none => return p
  | some e =>
    tell app (.observeFailed e.message)
    return p.failed e

def lookAfter (app : CompositeApp) (p : Progress) (kind : ChildKind) : Pass Progress := do
  let p ← settleKind app p (← apply app kind)
  let (status, error) ← updateStatus app kind p.status
  settleStatus app p status error

def lookAfterAll (app : CompositeApp) (p : Progress) : List ChildKind → Pass Progress
  | [] => return p
  | kind :: kinds => do
    lookAfterAll app (← lookAfter app p kind) kinds

def conclude (write : Except StoreError StatusWrite) (outcome : PassOutcome) :
    Except PassError PassOutcome :=
  match write with
  | .error e => .error (.store e)
  | .ok .conflict => .ok .retry
  | .ok .unchanged | .ok .written => .ok outcome

def reject (app : CompositeApp) (cause : ValidationError) :
    Pass (Except PassError PassOutcome) := do
  tell app (.invalidSpec cause.message)
  return conclude (← writeStatus app (app.rejectedStatus cause)) (.rejected cause)

def bringInLine (app : CompositeApp) : Pass (Except PassError PassOutcome) := do
  let p ← lookAfterAll app {} ChildKind.all
  if p.isNews then tell app (.reconciled (Change.summary p.changes))
  return conclude (← writeStatus app (p.finalStatus app))
    (if p.raced then .retry else .converged p.success p.writes)

def work (app : CompositeApp) : Pass (Except PassError PassOutcome) :=
  match app.validate with
  | .ok () => bringInLine app
  | .error (.invalid cause) => reject app cause
  | .error (.aborted cause) => abort cause

def reconcile (app : CompositeApp) : Pass (Except PassError PassOutcome) := do
  match ← gate app with
  | .error e => return .error e
  | .ok (.proceed app) => work app
  | .ok .finalized => return .ok .finalized
  | .ok .released => return .ok .released
  | .ok .retry => return .ok .retry

end Pass

def PassError.ofAbort {α : Type} : Aborting (Except PassError α) → Except PassError α
  | .ok result => result
  | .error cause => .error (.aborted cause.message)

def passLabel : Except PassError PassOutcome → String
  | .ok outcome => outcome.label
  | .error e => e.label

end CompositeApps
