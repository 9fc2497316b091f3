import CompositeApps.Desired.Projection
import CompositeApps.Desired.Target
import CompositeApps.Failure
import CompositeApps.Reconcile.Pass

/-!
Bringing one object in line with its app: look it up, decide, and write at most once.
-/

namespace CompositeApps

namespace CompositeApp

/-- The reference by which an object belongs to the app; there is none without name and uid. -/
def controllerReference? (app : CompositeApp) : Option OwnerReference := do
  let name ← app.metadata.name
  let uid ← app.metadata.uid
  return {
    apiVersion := apiVersion, kind := "CompositeApp", name, uid
    controller := some true, blockOwnerDeletion := none }

def controls (app : CompositeApp) (object : Child) : Bool :=
  match app.metadata.uid with
  | some uid => object.metadata.owners.any fun r => r.uid = uid && r.controller = some true
  | none => false

/-- The object as one that belongs to the app alone, so that it goes with it. -/
def claim (app : CompositeApp) (name : String) (object : Child) : Except ApplyError Child :=
  match app.controllerReference? with
  | some r => .ok (object.withMetadata { object.metadata with ownerReferences := some [r] })
  | none => .error (.ownerReference object.kind.name name app.name)

end CompositeApp

inductive Action where
  | keep
  | create (object : Child)
  | update (object : Child)
  | delete
  deriving DecidableEq, Inhabited

namespace Action

def forPresent (app : CompositeApp) (name : String) (wanted : Child) (observed : Option Child) :
    Except ApplyError Action :=
  match observed with
  | none => create <$> app.claim name wanted
  | some seen =>
    if seen.metadata.isTerminating then .error (.terminating wanted.kind.name name)
    else if (Projection.of wanted).agrees (Projection.of seen) && app.controls seen then .ok keep
    else (fun claimed => update (claimed.preparedUpdate seen)) <$> app.claim name wanted

/-- The action for an object that must not exist; one that is already going is left to go. -/
def forAbsent (observed : Option Child) : Action :=
  match observed with
  | none => keep
  | some seen => if seen.metadata.isTerminating then keep else delete

def decide (app : CompositeApp) (name : String) (desired : Desired Child)
    (observed : Option Child) : Except ApplyError Action :=
  match desired with
  | .present wanted => forPresent app name wanted observed
  | .absent => .ok (forAbsent observed)
  | .unmanaged => .ok keep

def outcome : Action → ChangeOutcome
  | keep => .unchanged
  | create _ => .created
  | update _ => .updated
  | delete => .deleted

def write? (key : ObjectKey) : Action → Option Call
  | keep => none
  | create object => some (.create (.child object))
  | update object => some (.replace (.child object))
  | delete => some (.delete key)

end Action

namespace Pass

def lookup (key : ObjectKey) : Pass (Except StoreError (Option Child)) := do
  return (← perform (.get key)).map fun reply => reply.bind (·.child?)

def settle (change : Change) : Pass (Except ApplyError Change) := do
  note change
  return .ok change

/-- Writes as the action says, and notes the change once that has worked. -/
def carryOut (key : ObjectKey) (action : Action) : Pass (Except ApplyError Change) := do
  let change : Change := ⟨key.kind.name, key.name, action.outcome⟩
  match action.write? key with
  | none => settle change
  | some write =>
    match ← perform write with
    | .error e => return .error (.store key.kind.name key.name e)
    | .ok _ => settle change

def converge (app : CompositeApp) (kind : ChildKind) (target : Target) :
    Pass (Except ApplyError Change) := do
  let key : ObjectKey := ⟨.child kind, app.namespaceName, target.name⟩
  match ← lookup key with
  | .error e => return .error (.store kind.name target.name e)
  | .ok observed =>
    let desired ← ofAborting (kind.desired app target.entry observed)
    match Action.decide app target.name desired observed with
    | .error e => return .error e
    | .ok action => carryOut key action

def convergeAll (app : CompositeApp) (kind : ChildKind) : List Target →
    Pass (List (Except ApplyError Change))
  | [] => return []
  | target :: targets => do
    let result ← converge app kind target
    return result :: (← convergeAll app kind targets)

def apply (app : CompositeApp) (kind : ChildKind) : Pass (List (Except ApplyError Change)) :=
  convergeAll app kind (app.targets kind.scope)

end Pass

namespace ApplyError

def failures (results : List (Except ApplyError Change)) : List ApplyError :=
  results.filterMap fun
    | .error e => some e
    | .ok _ => none

/-- The error that stands for all: the first that is no lost race, or else the first. -/
def chief? (results : List (Except ApplyError Change)) : Option ApplyError :=
  ((failures results).find? (!·.isRetryable)).or (failures results).head?

end ApplyError

def Change.ofResults (results : List (Except ApplyError Change)) : List Change :=
  results.filterMap fun
    | .ok c => some c
    | .error _ => none

end CompositeApps
