import CompositeApps.App.Finalizer
import CompositeApps.App.Summary
import CompositeApps.Proofs.Reconcile.Plan

/-!
Copies of an app, as they are before and after writes. They may differ in their finalizers, their
status and what a store says of an object, and nothing that is made from the app depends on these.
What the operator itself writes keeps all but the finalizers, the version and the status.
-/

namespace CompositeApps

namespace CompositeApp

/-- Another copy of an app: the two differ at most in their finalizers, their status and what a
store says of an object. -/
def CopyOf (copy app : CompositeApp) : Prop :=
  ∃ finalizers uid created deleted version status,
    copy = { app with
      metadata := { app.metadata with
        finalizers, uid
        creationTimestamp := created
        deletionTimestamp := deleted
        resourceVersion := version }
      status }

namespace CopyOf

variable {app copy latest : CompositeApp}

theorem refl (app : CompositeApp) : app.CopyOf app :=
  ⟨_, _, _, _, _, _, rfl⟩

theorem trans (h' : latest.CopyOf copy) (h : copy.CopyOf app) : latest.CopyOf app := by
  obtain ⟨_, _, _, _, _, _, rfl⟩ := h
  obtain ⟨_, _, _, _, _, _, rfl⟩ := h'
  exact ⟨_, _, _, _, _, _, rfl⟩

theorem storeKey_eq (h : copy.CopyOf app) : copy.storeKey = app.storeKey := by
  obtain ⟨_, _, _, _, _, _, rfl⟩ := h
  rfl

theorem validate_eq (h : copy.CopyOf app) : copy.validate = app.validate := by
  obtain ⟨_, _, _, _, _, _, rfl⟩ := h
  rfl

theorem spec_eq (h : copy.CopyOf app) : copy.spec = app.spec := by
  obtain ⟨_, _, _, _, _, _, rfl⟩ := h
  rfl

theorem targets_eq (h : copy.CopyOf app) (scope : Scope) :
    copy.targets scope = app.targets scope := by
  obtain ⟨_, _, _, _, _, _, rfl⟩ := h
  cases scope <;> rfl

theorem targetKey_eq (h : copy.CopyOf app) (kind : ChildKind) (target : Target) :
    copy.targetKey kind target = app.targetKey kind target := by
  obtain ⟨_, _, _, _, _, _, rfl⟩ := h
  rfl

theorem desired_eq (h : copy.CopyOf app) (kind : ChildKind) (entry : Option VersionEntry)
    (observed : Option Child) :
    kind.desired copy entry observed = kind.desired app entry observed := by
  obtain ⟨_, _, _, _, _, _, rfl⟩ := h
  cases kind <;> rfl

end CopyOf

def rewritten (app : CompositeApp) (finalizers : Option (List String)) (version : Option String)
    (status : Option AppStatus) : CompositeApp :=
  { app with
    metadata := { app.metadata with finalizers := finalizers, resourceVersion := version }
    status := status }

/-- A later copy of an app that only the operator has written since. -/
def Follows (later earlier : CompositeApp) : Prop :=
  ∃ finalizers version status, later = earlier.rewritten finalizers version status

namespace Follows

variable {app later latest : CompositeApp}

theorem refl (app : CompositeApp) : app.Follows app :=
  ⟨app.metadata.finalizers, app.metadata.resourceVersion, app.status, rfl⟩

theorem trans (h' : latest.Follows later) (h : later.Follows app) : latest.Follows app := by
  obtain ⟨_, _, _, rfl⟩ := h
  obtain ⟨finalizers, version, status, rfl⟩ := h'
  exact ⟨finalizers, version, status, rfl⟩

theorem copyOf (h : later.Follows app) : later.CopyOf app := by
  obtain ⟨_, _, _, rfl⟩ := h
  exact ⟨_, _, _, _, _, _, rfl⟩

theorem storeKey_eq (h : later.Follows app) : later.storeKey = app.storeKey :=
  h.copyOf.storeKey_eq

theorem validate_eq (h : later.Follows app) : later.validate = app.validate :=
  h.copyOf.validate_eq

theorem targets_eq (h : later.Follows app) (scope : Scope) :
    later.targets scope = app.targets scope :=
  h.copyOf.targets_eq scope

theorem targetKey_eq (h : later.Follows app) (kind : ChildKind) (target : Target) :
    later.targetKey kind target = app.targetKey kind target :=
  h.copyOf.targetKey_eq kind target

theorem desired_eq (h : later.Follows app) (kind : ChildKind) (entry : Option VersionEntry)
    (observed : Option Child) :
    kind.desired later entry observed = kind.desired app entry observed :=
  h.copyOf.desired_eq kind entry observed

theorem plan_eq (h : later.Follows app) (kind : ChildKind) (target : Target)
    (stored : Option Resource) : later.plan kind target stored = app.plan kind target stored := by
  unfold plan choice ChildKind.wanted
  simp only [h.desired_eq]
  obtain ⟨_, _, _, rfl⟩ := h
  rfl

theorem finished_eq (h : later.Follows app) (status : AppStatus) :
    status.finished later = status.finished app := by
  obtain ⟨_, _, _, rfl⟩ := h
  rfl

theorem isTerminating_eq (h : later.Follows app) :
    later.metadata.isTerminating = app.metadata.isTerminating := by
  obtain ⟨_, _, _, rfl⟩ := h
  rfl

theorem uid_eq (h : later.Follows app) : later.metadata.uid = app.metadata.uid := by
  obtain ⟨_, _, _, rfl⟩ := h
  rfl

theorem state_eq (h : later.Follows app)
    (hfinalizers : later.metadata.finalizers = app.metadata.finalizers) :
    FinalizerState.of later = FinalizerState.of app := by
  simp only [FinalizerState.of, ObjectMeta.finalizerList, hfinalizers, h.isTerminating_eq]

end Follows

end CompositeApp

end CompositeApps
