import CompositeApps.App.Basic

/-!
The finalizer that keeps an app stored until everything made for it can go.
-/

namespace CompositeApps

def finalizer : String := "apps.composite.dev/finalizer"

inductive FinalizerState where
  | unregistered
  | registered
  | finalizing
  | released
  deriving DecidableEq, Repr

namespace FinalizerState

def name : FinalizerState → String
  | unregistered => "Unregistered"
  | registered => "Registered"
  | finalizing => "Finalizing"
  | released => "Released"

def of (app : CompositeApp) : FinalizerState :=
  match app.metadata.finalizerList.contains finalizer, app.metadata.isTerminating with
  | false, false => unregistered
  | true, false => registered
  | true, true => finalizing
  | false, true => released

variable {app : CompositeApp}

theorem of_eq_unregistered : of app = unregistered ↔
    finalizer ∉ app.metadata.finalizerList ∧ app.metadata.isTerminating = false := by
  unfold of
  split <;> simp_all

theorem of_eq_registered : of app = registered ↔
    finalizer ∈ app.metadata.finalizerList ∧ app.metadata.isTerminating = false := by
  unfold of
  split <;> simp_all

theorem of_eq_finalizing : of app = finalizing ↔
    finalizer ∈ app.metadata.finalizerList ∧ app.metadata.isTerminating = true := by
  unfold of
  split <;> simp_all

end FinalizerState

namespace CompositeApp

def withFinalizers (app : CompositeApp) (finalizers : List String) : CompositeApp :=
  { app with metadata := { app.metadata with finalizers := some finalizers } }

def withFinalizer (app : CompositeApp) : CompositeApp :=
  app.withFinalizers (app.metadata.finalizerList ++ [finalizer])

def withoutFinalizer (app : CompositeApp) : CompositeApp :=
  app.withFinalizers (app.metadata.finalizerList.filter (· ≠ finalizer))

end CompositeApp

end CompositeApps
