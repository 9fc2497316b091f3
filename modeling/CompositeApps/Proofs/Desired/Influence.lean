import CompositeApps.Proofs.App.WellFormed
import CompositeApps.Proofs.Desired.DriftDetection
import CompositeApps.Proofs.Quantity.Amounts

/-!
What a running deployment has an influence on. The deployment that is made for a version is the one
that is made where none is running, but for the number of pods, the mark of a restart and the
resources of the first container. The amounts of these are always the ones that are asked for; the
claims come with the amounts, and may be others.
-/

namespace CompositeApps

namespace Deployment

def replicas? (d : Deployment) : Option Int :=
  d.spec.bind (·.replicas)

def podAnnotations (d : Deployment) : Labels :=
  ((d.spec.bind (·.template.metadata)).bind (·.annotations)).getD ∅

def resources? (d : Deployment) : Option ResourceRequirements :=
  d.spec.bind Desired.observedResources?

end Deployment

def VersionEntry.Allows (e : VersionEntry) (n : Int) : Prop :=
  e.minReplicas ≤ n ∧ n ≤ e.maxReplicas

/-- The bounds of a version that is not to be removed leave a choice. -/
theorem VersionEntry.WellFormed.allows_minReplicas {e : VersionEntry} (h : e.WellFormed)
    (hkept : e.isRemoved = false) : e.Allows e.minReplicas := by
  rcases h.replicas with hremoved | hbounds
  · exact absurd hremoved (of_decide_eq_false hkept)
  · exact ⟨Int.le_refl _, hbounds.2⟩

namespace ResourceRequirements

def SameAmounts (a b : ResourceRequirements) : Prop :=
  Quantity.SameAmounts (a.limits.getD ∅) (b.limits.getD ∅) ∧
    Quantity.SameAmounts (a.requests.getD ∅) (b.requests.getD ∅)

def SameClaims (a b : ResourceRequirements) : Prop :=
  a.claims.getD [] = b.claims.getD []

theorem SameAmounts.refl (a : ResourceRequirements) : a.SameAmounts a :=
  ⟨Quantity.SameAmounts.refl _, Quantity.SameAmounts.refl _⟩

end ResourceRequirements

namespace Desired

variable {app : CompositeApp} {e : VersionEntry} {observed : Option Deployment}
  {made : Deployment}

theorem equivalentResources_iff {a b : ResourceRequirements} :
    equivalentResources a b = true ↔ a.SameAmounts b := by
  rw [equivalentResources, Bool.and_eq_true, Quantity.sameList_iff, Quantity.sameList_iff]
  rfl

/-- What is carried over comes from the spec that is running; a missing one says nothing. -/
theorem deployment_eq (app : CompositeApp) (hkept : e.isRemoved = false)
    (observed : Option Deployment) :
    deployment app e observed = .present
      { freshDeployment app e with
        spec := (freshDeployment app e).spec.map
          (carryForward e ((observed.bind (·.spec)).getD {})) } := by
  rw [deployment, hkept, if_neg Bool.false_ne_true]
  cases observed.bind (·.spec) with
  | some seen => rfl
  | none =>
    simp only [freshDeployment, Option.map_some, Option.getD_none, carryForward_blank]

/-! ### The number of pods -/

theorem replicas?_of_deployment (h : deployment app e observed = .present made) :
    made.replicas? =
      some ((keptReplicas? e ((observed.bind (·.spec)).getD {})).getD e.minReplicas) := by
  rw [deployment_eq app (isRemoved_of_present h)] at h
  obtain rfl := Desired.present.inj h
  exact Option.or_some

theorem keptReplicas?_getD (d : Deployment) {n : Int} :
    keptReplicas? e (d.spec.getD {}) = some n ↔ d.replicas? = some n ∧ e.Allows n := by
  have hreplicas : (d.spec.getD {}).replicas = d.replicas? := by
    unfold Deployment.replicas?
    cases d.spec <;> rfl
  rw [keptReplicas?_eq_some, hreplicas]
  rfl

/-! ### The mark of a restart -/

theorem keptRestartMark?_getD (e : VersionEntry) (d : Deployment) :
    keptRestartMark? e (d.spec.getD {}) =
      if e.restartMark = "" then d.podAnnotations[restartMark]? else none := by
  have hannotations : ((d.spec.getD {}).template.metadata.bind (·.annotations)).getD ∅ =
      d.podAnnotations := by
    unfold Deployment.podAnnotations
    cases d.spec <;> rfl
  rw [← hannotations, keptRestartMark?]
  by_cases hgiven : e.restartMark = ""
  · rw [if_neg (not_not_intro hgiven), if_pos hgiven]
    cases (d.spec.getD {}).template.metadata with
    | none => exact (Dict.getElem?_empty _).symm
    | some m => cases hm : m.annotations <;> simp [hm]
  · rw [if_pos hgiven, if_neg hgiven]
    rfl

theorem podAnnotations_of_deployment (h : deployment app e observed = .present made) :
    made.podAnnotations = match keptRestartMark? e ((observed.bind (·.spec)).getD {}) with
      | some mark => (templateAnnotations e).insert restartMark mark
      | none => templateAnnotations e := by
  rw [deployment_eq app (isRemoved_of_present h)] at h
  obtain rfl := Desired.present.inj h
  simp only [Deployment.podAnnotations, freshDeployment, Option.map_some, Option.bind_some,
    carryForward_eq, metadataKept]
  cases keptRestartMark? e ((observed.bind (·.spec)).getD {}) with
  | some mark => simp only [Option.bind_some, keepRestartMark, Option.getD_some,
      nonEmptyLabels?_getD]
  | none => simp only [Option.bind_some, nonEmptyLabels?_getD]

theorem getElem?_foldl_insert {entries : List (String × String)} {key : String}
    (h : ∀ entry ∈ entries, entry.1 ≠ key) (labels : Labels) :
    (entries.foldl (fun acc (k, v) => acc.insert k v) labels)[key]? = labels[key]? := by
  induction entries generalizing labels with
  | nil => rfl
  | cons entry rest ih =>
    rw [List.forall_mem_cons] at h
    rw [List.foldl_cons, ih h.2, Dict.getElem?_insert, if_neg h.1]

theorem ne_restartMark_of_mem_proxyAnnotations {proxy : ResourceRequirements}
    {entry : String × String} (h : entry ∈ proxyAnnotations proxy) : entry.1 ≠ restartMark := by
  have hkey : ∀ amounts resource key, sidecarAmount amounts resource key = some entry →
      entry.1 = key := by
    intro amounts resource key hentry
    simp only [sidecarAmount, Option.bind_eq_bind, Option.bind_eq_some_iff] at hentry
    obtain ⟨_, -, _, -, hentry⟩ := hentry
    split at hentry
    · exact absurd hentry (by simp)
    · rw [← Option.some.inj hentry]
  simp only [proxyAnnotations, List.mem_filterMap, List.mem_cons, List.not_mem_nil, or_false, id]
    at h
  obtain ⟨_, rfl | rfl | rfl | rfl, hentry⟩ := h <;>
  · rw [hkey _ _ _ hentry]
    decide

/-- The annotations for the sidecar leave the mark of a restart alone. -/
theorem restartMark_templateAnnotations (e : VersionEntry) :
    (templateAnnotations e)[restartMark]? =
      if e.restartMark = "" then e.templateAnnotations[restartMark]? else some e.restartMark := by
  have hmarked : (templateAnnotations e)[restartMark]? =
      (if e.restartMark = "" then e.templateAnnotations
        else e.templateAnnotations.insert restartMark e.restartMark)[restartMark]? := by
    unfold templateAnnotations
    cases e.proxyResources with
    | some proxy => exact getElem?_foldl_insert (fun _ => ne_restartMark_of_mem_proxyAnnotations) _
    | none => rfl
  rw [hmarked]
  split
  · rfl
  · rw [Dict.getElem?_insert, if_pos rfl]

theorem restartMark_of_deployment {seen : Deployment}
    (h : deployment app e (some seen) = .present made) :
    made.podAnnotations[restartMark]? =
      if e.restartMark = "" then
        seen.podAnnotations[restartMark]?.or e.templateAnnotations[restartMark]?
      else some e.restartMark := by
  have hown := restartMark_templateAnnotations e
  rw [podAnnotations_of_deployment h, Option.bind_some, keptRestartMark?_getD]
  by_cases hgiven : e.restartMark = ""
  · simp only [if_pos hgiven] at hown ⊢
    cases seen.podAnnotations[restartMark]? with
    | some mark => rw [Option.some_or, Dict.getElem?_insert, if_pos rfl]
    | none => rw [Option.none_or, hown]
  · simp only [if_neg hgiven] at hown ⊢
    exact hown

theorem getElem?_podAnnotations (h : deployment app e observed = .present made) {key : String}
    (hkey : key ≠ restartMark) : made.podAnnotations[key]? = (templateAnnotations e)[key]? := by
  rw [podAnnotations_of_deployment h]
  split
  · rw [Dict.getElem?_insert, if_neg hkey.symm]
  · rfl

/-! ### The deployment as a whole -/

/-- For a version of a valid app that is not to be removed, the deployment that is made where one is
running is the one that is made where none is, but for the number of pods, the mark of a restart
and the resources of the first container. The number of pods is the one that is running if that is
within the bounds, and the least otherwise. The mark is the one of the entry if it gives one, else
the one that is on the running pods, else the one among the annotations that the entry gives. -/
theorem deployment_observed (hvalid : app.validate = .ok ()) (he : e ∈ app.spec.apps)
    (hkept : e.isRemoved = false) (seen : Deployment) :
    ∃ made fresh k, deployment app e (some seen) = .present made ∧
      deployment app e none = .present fresh ∧ k.Allowed e ∧ made = fresh.keeping k ∧
      (∀ n, seen.replicas? = some n → e.Allows n → made.replicas? = some n) ∧
      ((∀ n, seen.replicas? = some n → ¬ e.Allows n) → made.replicas? = some e.minReplicas) ∧
      (∃ n, made.replicas? = some n ∧ e.Allows n) ∧
      made.podAnnotations[restartMark]? =
        (if e.restartMark = "" then
          seen.podAnnotations[restartMark]?.or e.templateAnnotations[restartMark]?
        else some e.restartMark) ∧
      ∀ key ≠ restartMark, made.podAnnotations[key]? = fresh.podAnnotations[key]? := by
  obtain ⟨made, hmade⟩ := exists_present app hkept (some seen)
  obtain ⟨k, hallowed, hkeeping⟩ := exists_kept hmade
  have hfresh := deployment_none app hkept
  have hreplicas := replicas?_of_deployment hmade
  rw [Option.bind_some] at hreplicas
  refine ⟨made, _, k, hmade, hfresh, hallowed, hkeeping, fun n hn hallows => ?_, fun hnone => ?_,
    ⟨_, hreplicas, ?_⟩, restartMark_of_deployment hmade, fun key hkey => ?_⟩
  · rw [hreplicas, (keptReplicas?_getD seen).2 ⟨hn, hallows⟩, Option.getD_some]
  · have hout : keptReplicas? e (seen.spec.getD {}) = none :=
      Option.eq_none_iff_forall_ne_some.2 fun n hn =>
        hnone n ((keptReplicas?_getD seen).1 hn).1 ((keptReplicas?_getD seen).1 hn).2
    rw [hreplicas, hout, Option.getD_none]
  · cases hn : keptReplicas? e (seen.spec.getD {}) with
    | some n => exact ((keptReplicas?_getD seen).1 hn).2
    | none =>
      have hentry := (CompositeApp.wellFormed_of_validate hvalid).entries e he
      exact hentry.allows_minReplicas hkept
  · rw [getElem?_podAnnotations hmade hkey, getElem?_podAnnotations hfresh hkey]

/-! ### The resources -/

def resourcesKept (e : VersionEntry) (seen : Option ResourceRequirements) : ResourceRequirements :=
  (seen.filter (equivalentResources e.resources)).getD e.resources

theorem resources?_of_deployment (h : deployment app e observed = .present made) :
    made.resources? = some (resourcesKept e (observed.bind (·.resources?))) := by
  rw [deployment_eq app (isRemoved_of_present h)] at h
  obtain rfl := Desired.present.inj h
  have hseen : observedResources? ((observed.bind (·.spec)).getD {}) =
      observed.bind (·.resources?) := by
    unfold Deployment.resources?
    cases observed with
    | none => rfl
    | some d => cases hspec : d.spec <;> simp only [Option.bind_some, hspec] <;> rfl
  have hfirst : (keepResources ((observed.bind (·.spec)).getD {}) (container app e)).resources =
      some (resourcesKept e (observed.bind (·.resources?))) := by
    have hwanted : (container app e).resources = some e.resources := rfl
    unfold keepResources resourcesKept
    rw [hseen]
    cases observed.bind (·.resources?) with
    | none => rfl
    | some seen =>
      simp only [hwanted, Option.getD_some, Option.filter_some]
      split <;> rfl
  exact hfirst

/-- A version that is not to be removed gets resources in the amounts that it asks for, whatever is
running. They come with the claims that it asks for just if those that are running in the same
amounts, if there are any, do. -/
theorem resources_observed (app : CompositeApp) (hkept : e.isRemoved = false)
    (observed : Option Deployment) :
    ∃ made r, deployment app e observed = .present made ∧ made.resources? = some r ∧
      e.resources.SameAmounts r ∧
      (e.resources.SameClaims r ↔ ∀ seen, observed.bind (·.resources?) = some seen →
        e.resources.SameAmounts seen → e.resources.SameClaims seen) := by
  obtain ⟨made, hmade⟩ := exists_present app hkept observed
  refine ⟨made, _, hmade, resources?_of_deployment hmade, ?_⟩
  unfold resourcesKept
  cases observed.bind (·.resources?) with
  | none =>
    refine ⟨.refl _, fun _ seen hseen => absurd hseen (by simp), fun _ => rfl⟩
  | some seen =>
    by_cases hsame : e.resources.SameAmounts seen
    · rw [Option.filter_some, if_pos (equivalentResources_iff.2 hsame), Option.getD_some]
      refine ⟨hsame, fun hclaims other hother _ => ?_, fun h => h seen rfl hsame⟩
      rwa [← Option.some.inj hother]
    · rw [Option.filter_some, if_neg (mt equivalentResources_iff.1 hsame), Option.getD_none]
      refine ⟨.refl _, fun _ other hother hamounts => ?_, fun _ => rfl⟩
      exact absurd (Option.some.inj hother ▸ hamounts) hsame

end Desired

namespace Example

def press : VersionEntry :=
  { version := "v1", image := "press:1", minReplicas := 1, maxReplicas := 3, port := 8080
    templateAnnotations := (∅ : Labels).insert "team" "core"
    resources := {
      claims := some [.obj [("name", .str "gpu")]]
      limits := some ((∅ : Dict String).insert "cpu" "1") } }

def printshop : CompositeApp :=
  { metadata := { name := some "printshop", namespaceName := some "default" }
    spec := { apps := [press] } }

def printing (device : String) : Deployment :=
  { spec := some {
      replicas := some 2
      template := {
        metadata := some {
          annotations := some ((∅ : Labels).insert "apps.composite.dev/restart-mark" "monday") }
        spec := some {
          containers := [{
            name := "printshop-v1"
            resources := some {
              claims := some [.obj [("name", .str device)]]
              limits := some ((∅ : Dict String).insert "cpu" "1000m") } }] } } } }

end Example

namespace Desired

theorem deployment_observed_example :
    Example.printshop.validate = .ok () ∧ Example.press ∈ Example.printshop.spec.apps ∧
    Example.press.isRemoved = false ∧
    ∃ made, deployment Example.printshop Example.press (some (Example.printing "gpu")) =
        .present made ∧
      made.replicas? = some 2 ∧ made.podAnnotations[restartMark]? = some "monday" ∧
      made.podAnnotations["team"]? = some "core" := by
  have hvalid : Example.printshop.validate = .ok () := by rfl
  have he : Example.press ∈ Example.printshop.spec.apps := List.mem_cons_self
  obtain ⟨made, fresh, -, hmade, hfresh, -, -, hwithin, -, -, hmark, hothers⟩ :=
    deployment_observed hvalid he rfl (Example.printing "gpu")
  obtain rfl := Desired.present.inj hfresh
  refine ⟨hvalid, he, rfl, made, hmade, hwithin 2 rfl ⟨by decide, by decide⟩, ?_, ?_⟩
  · rw [hmark]
    decide +kernel
  · rw [hothers "team" (by decide)]
    decide +kernel

theorem resources_observed_example :
    Example.press.isRemoved = false ∧
    ∃ made r, deployment Example.printshop Example.press (some (Example.printing "gpu")) =
        .present made ∧
      made.resources? = some r ∧ Example.press.resources.SameAmounts r ∧
      Example.press.resources.SameClaims r := by
  obtain ⟨made, r, hmade, hr, hamounts, hclaims⟩ :=
    resources_observed Example.printshop (e := Example.press) rfl (some (Example.printing "gpu"))
  refine ⟨rfl, made, r, hmade, hr, hamounts, hclaims.2 fun seen hseen _ => ?_⟩
  obtain rfl := Option.some.inj hseen
  rfl

/-- A version asks for one device and keeps another one that is running in the same amounts. -/
theorem resources_other_device :
    Example.printshop.validate = .ok () ∧ Example.press ∈ Example.printshop.spec.apps ∧
    Example.press.isRemoved = false ∧
    ∃ made r, deployment Example.printshop Example.press (some (Example.printing "tpu")) =
        .present made ∧
      made.resources? = some r ∧ ¬ Example.press.resources.SameClaims r := by
  obtain ⟨made, hmade⟩ := exists_present Example.printshop (e := Example.press) rfl
    (some (Example.printing "tpu"))
  refine ⟨by rfl, List.mem_cons_self, rfl, made, _, hmade, resources?_of_deployment hmade, ?_⟩
  unfold ResourceRequirements.SameClaims
  decide +kernel

end Desired

end CompositeApps
