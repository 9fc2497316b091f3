import CompositeApps.Cluster.Resource
import CompositeApps.Desired.Projection
import CompositeApps.Proofs.App.Validation
import CompositeApps.Proofs.Desired.CarryForward

/-!
What an app wants of an object that was made for it is that object. Whether an object is wanted does
not depend on the one that is there, and what a store adds to an object does not count.
-/

namespace CompositeApps

namespace Projection

theorem agrees_self (p : Projection) : p.agrees p = true :=
  decide_eq_true rfl

end Projection

namespace Child

/-- An object that carries all that its app decides of it, whatever else it carries. -/
structure Mirrors (made wanted : Child) : Prop where
  projection : Projection.of made = Projection.of wanted
  spec : made.deployment?.bind (·.spec) = wanted.deployment?.bind (·.spec)

namespace Mirrors

theorem refl (c : Child) : c.Mirrors c :=
  ⟨rfl, rfl⟩

theorem trans {a b c : Child} (hab : a.Mirrors b) (hbc : b.Mirrors c) : a.Mirrors c :=
  ⟨hab.projection.trans hbc.projection, hab.spec.trans hbc.spec⟩

theorem withMetadata {c : Child} {m : ObjectMeta} (h : m.labels = c.metadata.labels) :
    (c.withMetadata m).Mirrors c := by
  have hlabels : m.labelsOrEmpty = c.metadata.labelsOrEmpty := by
    simp only [ObjectMeta.labelsOrEmpty, h]
  cases c <;>
    exact ⟨by simp only [Projection.of, Child.withMetadata, DeploymentView.of, ServiceView.of,
      hlabels, Child.metadata], rfl⟩

theorem preparedUpdate (wanted observed : Child) :
    (wanted.preparedUpdate observed).Mirrors wanted := by
  cases wanted with
  | service s =>
    cases observed with
    | service seen =>
      rcases s with ⟨metadata, spec, status⟩
      rcases seen with ⟨seenMetadata, seenSpec, seenStatus⟩
      cases spec <;> cases seenSpec <;> exact ⟨rfl, rfl⟩
    | _ => exact ⟨rfl, rfl⟩
  | _ => cases observed <;> exact ⟨rfl, rfl⟩

end Mirrors

theorem metadata_preparedUpdate (wanted observed : Child) :
    (wanted.preparedUpdate observed).metadata =
      { wanted.metadata with resourceVersion := observed.metadata.resourceVersion } := by
  cases wanted <;> cases observed <;> rfl

theorem isFinite_preparedUpdate (wanted observed : Child) :
    (wanted.preparedUpdate observed).isFinite = wanted.isFinite := by
  cases wanted <;> cases observed <;> rfl

theorem kind_preparedUpdate (wanted observed : Child) :
    (wanted.preparedUpdate observed).kind = wanted.kind := by
  cases wanted <;> cases observed <;> rfl

/-- An object with another one's status still carries all that its app decides of it. -/
theorem exists_withStatusOf (c : Child) (source : Resource) :
    ∃ made, (Resource.child c).withStatusOf source = .child made ∧ made.Mirrors c := by
  unfold Resource.withStatusOf
  split
  · exact absurd ‹Resource.child c = _› (by simp)
  all_goals first
    | exact ⟨_, rfl, Mirrors.refl _⟩
    | (obtain rfl := Resource.child.inj ‹Resource.child c = _›; exact ⟨_, rfl, rfl, rfl⟩)

end Child

namespace Desired

theorem map_eq_present {α β : Type} {f : α → β} {d : Desired α} {b : β} :
    d.map f = .present b ↔ ∃ a, d = .present a ∧ f a = b := by
  cases d <;> simp [Desired.map]

theorem map_eq_absent {α β : Type} {f : α → β} {d : Desired α} :
    d.map f = .absent ↔ d = .absent := by
  cases d <;> simp [Desired.map]

theorem map_eq_unmanaged {α β : Type} {f : α → β} {d : Desired α} :
    d.map f = .unmanaged ↔ d = .unmanaged := by
  cases d <;> simp [Desired.map]

variable {app : CompositeApp}

theorem eq_of_service {wanted : Service} (h : service app = .present wanted) :
    wanted =
      { metadata := app.childMetadata
        spec := some {
          type := some "ClusterIP"
          selector := some app.selector
          ports := some (servicePorts app)
          sessionAffinity := some "None" } } := by
  unfold service at h
  split at h
  · exact absurd h (by simp)
  · exact (Desired.present.inj h).symm

theorem eq_of_autoscaler {e : VersionEntry} {wanted : Autoscaler}
    (h : autoscaler app e = .present wanted) :
    e.isRemoved = false ∧ wanted =
      { metadata := app.versionMetadata e
        spec := some {
          minReplicas := some e.minReplicas
          maxReplicas := e.maxReplicas
          scaleTargetRef := {
            apiVersion := some "apps/v1", kind := "Deployment", name := app.versionName e }
          targetCpuPercent := some targetCpuPercent } } := by
  unfold autoscaler at h
  split at h
  · exact absurd h (by simp)
  split at h
  · exact absurd h (by simp)
  · rename_i hkept
    exact ⟨Bool.eq_false_iff.2 hkept, (Desired.present.inj h).symm⟩

theorem metadata_service {wanted : Service} (h : service app = .present wanted) :
    wanted.metadata = app.childMetadata := by
  rw [eq_of_service h]

theorem metadata_autoscaler {e : VersionEntry} {wanted : Autoscaler}
    (h : autoscaler app e = .present wanted) : wanted.metadata = app.versionMetadata e := by
  rw [(eq_of_autoscaler h).2]

theorem metadata_virtualService {wanted : VirtualService}
    (h : virtualService app = .ok (.present wanted)) : wanted.metadata = app.childMetadata := by
  unfold virtualService at h
  split at h
  · exact absurd h (by simp)
  · obtain ⟨settings, -, h⟩ := bind_eq_ok.1 h
    obtain rfl := Desired.present.inj (Except.ok.inj h)
    rfl

theorem metadata_destinationRule {wanted : DestinationRule}
    (h : destinationRule app = .ok (.present wanted)) : wanted.metadata = app.childMetadata := by
  unfold destinationRule at h
  split at h
  · exact absurd h (by simp)
  · obtain ⟨policy, -, h⟩ := bind_eq_ok.1 h
    obtain rfl := Desired.present.inj (Except.ok.inj h)
    rfl

end Desired

namespace ChildKind

variable {app : CompositeApp} {kind : ChildKind} {entry : Option VersionEntry}
  {observed : Option Child} {wanted : Child}

/-- An object that was made for an app stays wanted as it is. -/
theorem desired_of_mirrors {made : Child}
    (h : kind.desired app entry observed = .ok (.present wanted)) (hmade : made.Mirrors wanted) :
    kind.desired app entry (some made) = .ok (.present wanted) := by
  cases kind with
  | deployment =>
    cases entry with
    | none => exact absurd h (by simp [desired])
    | some e =>
      obtain ⟨d, hd, rfl⟩ := Desired.map_eq_present.1 (Except.ok.inj h)
      have hspec : made.deployment?.bind (·.spec) = d.spec := hmade.spec
      exact congrArg Except.ok
        (Desired.map_eq_present.2 ⟨d, Desired.deployment_of_spec hd hspec, rfl⟩)
  | _ => exact h

theorem desired_absent (h : kind.desired app entry observed = .ok .absent)
    (other : Option Child) : kind.desired app entry other = .ok .absent := by
  cases kind with
  | deployment =>
    cases entry with
    | none => exact absurd h (by simp [desired])
    | some e =>
      have hremoved := Desired.deployment_eq_absent.1 (Desired.map_eq_absent.1 (Except.ok.inj h))
      exact congrArg Except.ok
        (Desired.map_eq_absent.2 (Desired.deployment_eq_absent.2 hremoved))
  | _ => exact h

theorem desired_unmanaged (h : kind.desired app entry observed = .ok .unmanaged)
    (other : Option Child) : kind.desired app entry other = .ok .unmanaged := by
  cases kind with
  | deployment =>
    cases entry with
    | none => rfl
    | some e =>
      exact absurd (Desired.map_eq_unmanaged.1 (Except.ok.inj h)) Desired.deployment_ne_unmanaged
  | _ => exact h

/-- What is wanted of the object of a target has its kind, its name and the namespace of the app,
and nothing that only a store gives. -/
theorem desired_present {target : Target} (htarget : target ∈ app.targets kind.scope)
    (h : kind.desired app target.entry observed = .ok (.present wanted)) :
    wanted.kind = kind ∧ wanted.metadata =
      { name := some target.name
        namespaceName := some app.namespaceName
        labels := wanted.metadata.labels } := by
  cases kind with
  | deployment =>
    obtain ⟨e, -, rfl⟩ := List.mem_map.1 htarget
    obtain ⟨d, hd, rfl⟩ := Desired.map_eq_present.1 (Except.ok.inj h)
    exact ⟨rfl, by simp only [Child.metadata, Desired.metadata_deployment hd]; rfl⟩
  | service =>
    obtain rfl := List.mem_singleton.1 htarget
    obtain ⟨s, hs, rfl⟩ := Desired.map_eq_present.1 (Except.ok.inj h)
    exact ⟨rfl, by simp only [Child.metadata, Desired.metadata_service hs]; rfl⟩
  | virtualService =>
    obtain rfl := List.mem_singleton.1 htarget
    obtain ⟨desired, hdesired, hmap⟩ := map_eq_ok.1 h
    obtain ⟨v, rfl, rfl⟩ := Desired.map_eq_present.1 hmap
    exact ⟨rfl, by simp only [Child.metadata, Desired.metadata_virtualService hdesired]; rfl⟩
  | autoscaler =>
    obtain ⟨e, -, rfl⟩ := List.mem_map.1 htarget
    obtain ⟨a, ha, rfl⟩ := Desired.map_eq_present.1 (Except.ok.inj h)
    exact ⟨rfl, by simp only [Child.metadata, Desired.metadata_autoscaler ha]; rfl⟩
  | destinationRule =>
    obtain rfl := List.mem_singleton.1 htarget
    obtain ⟨desired, hdesired, hmap⟩ := map_eq_ok.1 h
    obtain ⟨r, rfl, rfl⟩ := Desired.map_eq_present.1 hmap
    exact ⟨rfl, by simp only [Child.metadata, Desired.metadata_destinationRule hdesired]; rfl⟩

end ChildKind

end CompositeApps
