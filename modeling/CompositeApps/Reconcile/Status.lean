import CompositeApps.App.Summary
import CompositeApps.Reconcile.Converge

/-!
The status of an app in a pass: gathered from the objects made for it, and written only if it
differs from the one that was read.
-/

namespace CompositeApps

inductive StatusWrite where
  | unchanged
  | written
  /-- The app was changed by someone else since it was read. -/
  | conflict
  deriving DecidableEq, Repr, Inhabited

def StatusWrite.name : StatusWrite → String
  | unchanged => "Unchanged"
  | written => "Written"
  | conflict => "Conflict"

namespace Pass

/-- Takes into the status what the objects of the targets report, up to the first that cannot be
looked up. -/
def observeAll (app : CompositeApp) (kind : ChildKind) (status : AppStatus) :
    List Target → Pass (AppStatus × Option ApplyError)
  | [] => return (status, none)
  | target :: targets => do
    match ← lookup ⟨.child kind, app.namespaceName, target.name⟩ with
    | .error e => return (status, some (.store kind.name target.name e))
    | .ok observed => observeAll app kind (status.observe target.entry observed) targets

def updateStatus (app : CompositeApp) (kind : ChildKind) (status : AppStatus) :
    Pass (AppStatus × Option ApplyError) :=
  if kind.observes then observeAll app kind status (app.targets kind.scope)
  else return (status, none)

def writeStatus (app : CompositeApp) (status : AppStatus) :
    Pass (Except StoreError StatusWrite) := do
  if app.status = some status then return .ok .unchanged
  else
    match ← perform (.replaceStatus (.app { app with status := some status })) with
    | .ok _ => return .ok .written
    | .error (.conflict _) => return .ok .conflict
    | .error e => return .error e

end Pass

end CompositeApps
