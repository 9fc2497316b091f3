import CompositeApps.Cluster.Call
import CompositeApps.Failure
import CompositeApps.Reconcile.Change
import CompositeApps.Reconcile.Event

/-!
A pass over an app, or a part of one, as the tree of what it does: each step that needs an answer
branches over the answers. What a pass may do and in which order can be read off the tree; a handler
says what its steps do to a state.
-/

namespace CompositeApps

inductive Pass (α : Type) where
  | done (value : α)
  /-- The pass ends at once, whatever was still to be done. -/
  | abort (cause : Abort)
  | call (c : Call) (next : Reply → Pass α)
  /-- Runs what has to be done before the app may go. -/
  | preDelete (app : CompositeApp) (next : Except String Unit → Pass α)
  | publish (app : CompositeApp) (event : Event) (next : Pass α)
  | record (change : Change) (next : Pass α)

namespace Pass

variable {α β : Type}

protected def bind (p : Pass α) (f : α → Pass β) : Pass β :=
  match p with
  | done a => f a
  | abort cause => abort cause
  | call c next => call c fun reply => (next reply).bind f
  | preDelete app next => preDelete app fun result => (next result).bind f
  | publish app event next => publish app event (next.bind f)
  | record change next => record change (next.bind f)

instance : Monad Pass where
  pure := done
  bind := Pass.bind

theorem bind_done (p : Pass α) : p.bind done = p := by
  induction p with
  | done | abort => rfl
  | call c next ih => exact congrArg (call c) (funext ih)
  | preDelete app next ih => exact congrArg (preDelete app) (funext ih)
  | publish app event next ih => exact congrArg (publish app event) ih
  | record change next ih => exact congrArg (record change) ih

theorem bind_bind {γ : Type} (p : Pass α) (f : α → Pass β) (g : β → Pass γ) :
    (p.bind f).bind g = p.bind fun a => (f a).bind g := by
  induction p with
  | done | abort => rfl
  | call c next ih => exact congrArg (call c) (funext ih)
  | preDelete app next ih => exact congrArg (preDelete app) (funext ih)
  | publish app event next ih => exact congrArg (publish app event) ih
  | record change next ih => exact congrArg (record change) ih

instance : LawfulMonad Pass :=
  LawfulMonad.mk' Pass bind_done (fun _ _ => rfl) bind_bind

def perform (c : Call) : Pass Reply :=
  call c done

def runHook (app : CompositeApp) : Pass (Except String Unit) :=
  preDelete app done

def tell (app : CompositeApp) (event : Event) : Pass Unit :=
  publish app event (done ())

def note (change : Change) : Pass Unit :=
  record change (done ())

def ofAborting : Aborting α → Pass α
  | .ok a => done a
  | .error cause => abort cause

end Pass

/-- What the steps of a pass do to a state. -/
structure Handler (σ : Type) where
  call : Call → σ → Aborting Reply × σ
  preDelete : CompositeApp → σ → Aborting (Except String Unit) × σ
  publish : CompositeApp → Event → σ → σ
  record : Change → σ → σ

/-- Runs a pass from a state; what was done before an abort stays done. -/
def Pass.run {σ α : Type} (h : Handler σ) : Pass α → σ → Aborting α × σ
  | done a, s => (.ok a, s)
  | abort cause, s => (.error cause, s)
  | call c next, s =>
    match h.call c s with
    | (.ok reply, s) => (next reply).run h s
    | (.error cause, s) => (.error cause, s)
  | preDelete app next, s =>
    match h.preDelete app s with
    | (.ok result, s) => (next result).run h s
    | (.error cause, s) => (.error cause, s)
  | publish app event next, s => next.run h (h.publish app event s)
  | record change next, s => next.run h (h.record change s)

end CompositeApps
