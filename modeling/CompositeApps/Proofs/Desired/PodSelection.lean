import CompositeApps.Proofs.Desired.DriftDetection
import CompositeApps.Proofs.Desired.References

/-!
The labels of the pods of a version, and what selects by them. Over the labels of the version lie
those that its entry gives to its pods, and these win: the deployment, the service and the subset of
the version miss its pods if the entry says something else about a label that they select by.
-/

namespace CompositeApps

def Deployment.selected (d : Deployment) : Labels :=
  (d.spec.bind (·.selector.matchLabels)).getD ∅

def Deployment.podLabels (d : Deployment) : Labels :=
  ((d.spec.bind (·.template.metadata)).bind (·.labels)).getD ∅

def Service.selected (s : Service) : Labels :=
  (s.spec.bind (·.selector)).getD ∅

namespace Desired

variable {app : CompositeApp} {e : VersionEntry}

/-- A version that is not to be removed gets a deployment, whatever is running, that selects by the
app and the version. -/
theorem exists_deployment (app : CompositeApp) (hkept : e.isRemoved = false)
    (observed : Option Deployment) :
    ∃ made, deployment app e observed = .present made ∧
      made.selected = app.versionSelector e ∧
      made.podLabels = Labels.merge (app.versionLabels e) e.templateLabels := by
  obtain ⟨made, hmade⟩ := exists_present app hkept observed
  obtain ⟨k, -, rfl⟩ := exists_kept hmade
  exact ⟨_, hmade, rfl, rfl⟩

/-- The objects that select the pods of a version, by the labels that they select by. -/
theorem exists_selecting (hvalid : app.validate = .ok ()) (he : e ∈ app.spec.apps) :
    ∃ endpoint rule s, service app = .present endpoint ∧
      destinationRule app = .ok (.present rule) ∧ s ∈ rule.spec.subsets ∧
      s.name = app.versionName e ∧ endpoint.selected = app.selector ∧
      s.labels = app.versionLabels e := by
  have hsome : app.spec.apps ≠ [] := List.ne_nil_of_mem he
  obtain ⟨policy, hrule⟩ := exists_destinationRule hvalid hsome
  exact ⟨_, _, subset app e, service_of_ne_nil hsome, hrule, List.mem_map_of_mem he, rfl, rfl, rfl⟩

/-- The pods of a version that is not to be removed carry the labels by which its deployment, the
service of the app and the subset of the version select just if the labels that its entry gives to
the pods say nothing else about them. -/
theorem pods_selected_iff (hvalid : app.validate = .ok ()) (he : e ∈ app.spec.apps)
    (hkept : e.isRemoved = false) (observed : Option Deployment) :
    ∃ made endpoint rule s, deployment app e observed = .present made ∧
      service app = .present endpoint ∧ destinationRule app = .ok (.present rule) ∧
      s ∈ rule.spec.subsets ∧ s.name = app.versionName e ∧
      (made.selected.Within made.podLabels ↔ e.templateLabels.Respects (app.versionSelector e)) ∧
      (endpoint.selected.Within made.podLabels ↔ e.templateLabels.Respects app.selector) ∧
      (s.labels.Within made.podLabels ↔ e.templateLabels.Respects (app.versionLabels e)) := by
  obtain ⟨made, hmade, hselected, hpods⟩ := exists_deployment app hkept observed
  obtain ⟨endpoint, rule, s, hendpoint, hrule, hs, hname, hselector, hlabels⟩ :=
    exists_selecting hvalid he
  refine ⟨made, endpoint, rule, s, hmade, hendpoint, hrule, hs, hname, ?_, ?_, ?_⟩
  · rw [hselected, hpods]
    exact Labels.within_merge_iff (app.versionSelector_within_versionLabels e)
  · rw [hselector, hpods]
    exact Labels.within_merge_iff (app.selector_within_versionLabels e)
  · rw [hlabels, hpods]
    exact Labels.within_merge_iff (Dict.Within.refl _)

end Desired

namespace Example

def labelled : VersionEntry :=
  { version := "v1", image := "gallery:1", minReplicas := 1, maxReplicas := 3, port := 8080
    templateLabels := (∅ : Labels).insert "tier" "front" }

def mislabelled : VersionEntry :=
  { version := "v2", image := "gallery:2", minReplicas := 1, maxReplicas := 3, port := 8080
    templateLabels := ((∅ : Labels).insert "version" "canary").insert "apps.composite.dev/app" "x" }

def gallery : CompositeApp :=
  { metadata := {
      name := some "gallery", namespaceName := some "default"
      labels := some ((∅ : Labels).insert "team" "a") }
    spec := { apps := [labelled, mislabelled] } }

end Example

namespace Desired

theorem pods_selected_iff_example :
    Example.gallery.validate = .ok () ∧ Example.labelled ∈ Example.gallery.spec.apps ∧
    Example.labelled.isRemoved = false ∧
    ∃ made endpoint rule s, deployment Example.gallery Example.labelled none = .present made ∧
      service Example.gallery = .present endpoint ∧
      destinationRule Example.gallery = .ok (.present rule) ∧ s ∈ rule.spec.subsets ∧
      s.name = "gallery-v1" ∧ made.selected.Within made.podLabels ∧
      endpoint.selected.Within made.podLabels ∧ s.labels.Within made.podLabels := by
  have hvalid : Example.gallery.validate = .ok () := by rfl
  have he : Example.labelled ∈ Example.gallery.spec.apps := List.mem_cons_self
  obtain ⟨made, endpoint, rule, s, hmade, hendpoint, hrule, hs, hname, hself, hservice, hsubset⟩ :=
    pods_selected_iff hvalid he rfl none
  exact ⟨hvalid, he, rfl, made, endpoint, rule, s, hmade, hendpoint, hrule, hs, hname,
    hself.2 (by decide +kernel), hservice.2 (by decide +kernel), hsubset.2 (by decide +kernel)⟩

/-- An app passes its checks though nothing selects the pods of one of its versions. -/
theorem pods_selected_by_nothing :
    Example.gallery.validate = .ok () ∧ Example.mislabelled ∈ Example.gallery.spec.apps ∧
    Example.mislabelled.isRemoved = false ∧
    ∃ made endpoint rule s, deployment Example.gallery Example.mislabelled none = .present made ∧
      service Example.gallery = .present endpoint ∧
      destinationRule Example.gallery = .ok (.present rule) ∧ s ∈ rule.spec.subsets ∧
      s.name = "gallery-v2" ∧ ¬ made.selected.Within made.podLabels ∧
      ¬ endpoint.selected.Within made.podLabels ∧ ¬ s.labels.Within made.podLabels := by
  have hvalid : Example.gallery.validate = .ok () := by rfl
  have he : Example.mislabelled ∈ Example.gallery.spec.apps :=
    List.mem_cons_of_mem _ List.mem_cons_self
  obtain ⟨made, hmade, hselected, hpods⟩ :=
    exists_deployment Example.gallery (e := Example.mislabelled) rfl none
  obtain ⟨endpoint, rule, s, hendpoint, hrule, hs, hname, hselector, hlabels⟩ :=
    exists_selecting hvalid he
  refine ⟨hvalid, he, rfl, made, endpoint, rule, s, hmade, hendpoint, hrule, hs, hname, ?_⟩
  rw [hselected, hselector, hlabels, hpods]
  decide +kernel

end Desired

end CompositeApps
