import CompositeApps.Desired.Deployment

/-!
What is carried over from a running deployment comes to rest: once it is carried over, carrying it
over again changes nothing. A deployment that was made from the app alone is at rest as well.
-/

namespace CompositeApps

theorem Labels.insert_eq_self {labels : Labels} {key value : String}
    (h : labels[key]? = some value) : labels.insert key value = labels := by
  apply Std.ExtTreeMap.ext_getElem?
  intro other
  rw [Std.ExtTreeMap.getElem?_insert]
  split
  · rename_i heq
    rw [← Std.LawfulEqCmp.compare_eq_iff_eq.1 heq, h]
  · rfl

namespace Desired

def replicasKept (e : VersionEntry) (seen wanted : DeploymentSpec) : Option Int :=
  (keptReplicas? e seen).or wanted.replicas

def metadataKept (e : VersionEntry) (seen : DeploymentSpec) (m : Option ObjectMeta) :
    Option ObjectMeta :=
  match keptRestartMark? e seen with
  | some mark => some (keepRestartMark mark (m.getD {}))
  | none => m

def containersKept (seen : DeploymentSpec) : List Container → List Container
  | [] => []
  | c :: rest => keepResources seen c :: rest

theorem carryForward_eq (e : VersionEntry) (seen wanted : DeploymentSpec) :
    carryForward e seen wanted =
      { wanted with
        replicas := replicasKept e seen wanted
        template := {
          metadata := metadataKept e seen wanted.template.metadata
          spec := wanted.template.spec.map fun p =>
            { p with containers := containersKept seen p.containers } } } := by
  rfl

theorem carryForward_congr {e : VersionEntry} {a b wanted : DeploymentSpec}
    (hreplicas : replicasKept e a wanted = replicasKept e b wanted)
    (hmetadata : metadataKept e a wanted.template.metadata =
      metadataKept e b wanted.template.metadata)
    (hcontainers : ∀ p, wanted.template.spec = some p →
      containersKept a p.containers = containersKept b p.containers) :
    carryForward e a wanted = carryForward e b wanted := by
  rw [carryForward_eq, carryForward_eq, hreplicas, hmetadata]
  cases hp : wanted.template.spec with
  | none => rfl
  | some p => simp only [Option.map_some, hcontainers p hp]

theorem keptReplicas?_eq_some {e : VersionEntry} {spec : DeploymentSpec} {n : Int} :
    keptReplicas? e spec = some n ↔
      spec.replicas = some n ∧ e.minReplicas ≤ n ∧ n ≤ e.maxReplicas := by
  simp [keptReplicas?, Option.filter_eq_some_iff]

theorem replicasKept_carryForward (e : VersionEntry) (seen wanted : DeploymentSpec) :
    replicasKept e (carryForward e seen wanted) wanted = replicasKept e seen wanted := by
  have hreplicas : (carryForward e seen wanted).replicas = replicasKept e seen wanted := rfl
  cases hkept : keptReplicas? e seen with
  | some n =>
    have hagain : keptReplicas? e (carryForward e seen wanted) = some n := by
      refine keptReplicas?_eq_some.2 ⟨?_, (keptReplicas?_eq_some.1 hkept).2⟩
      rw [hreplicas, replicasKept, hkept, Option.some_or]
    simp only [replicasKept, hkept, hagain]
  | none =>
    rw [replicasKept, hkept, Option.none_or] at hreplicas
    cases hagain : keptReplicas? e (carryForward e seen wanted) with
    | none => simp only [replicasKept, hkept, hagain]
    | some n =>
      have hn := (keptReplicas?_eq_some.1 hagain).1
      rw [hreplicas] at hn
      simp only [replicasKept, hkept, hagain, hn, Option.some_or, Option.none_or]

theorem keptRestartMark?_eq_some {e : VersionEntry} {spec : DeploymentSpec} {mark : String} :
    keptRestartMark? e spec = some mark ↔
      e.restartMark = "" ∧ ∃ m annotations, spec.template.metadata = some m ∧
        m.annotations = some annotations ∧ annotations[restartMark]? = some mark := by
  by_cases hgiven : e.restartMark = "" <;>
    simp [keptRestartMark?, hgiven, Option.bind_eq_some_iff]

/-- The mark that is on a template already changes nothing. -/
theorem keepRestartMark_eq_self {mark : String} {m : ObjectMeta} {annotations : Labels}
    (hannotations : m.annotations = some annotations)
    (hmark : annotations[restartMark]? = some mark) : keepRestartMark mark m = m := by
  unfold keepRestartMark
  rw [hannotations, Option.getD_some, Labels.insert_eq_self hmark, ← hannotations]

theorem metadataKept_carryForward (e : VersionEntry) (seen wanted : DeploymentSpec) :
    metadataKept e (carryForward e seen wanted) wanted.template.metadata =
      metadataKept e seen wanted.template.metadata := by
  have hmetadata : (carryForward e seen wanted).template.metadata =
      metadataKept e seen wanted.template.metadata := rfl
  cases hkept : keptRestartMark? e seen with
  | some mark =>
    have hgiven := (keptRestartMark?_eq_some.1 hkept).1
    have hagain : keptRestartMark? e (carryForward e seen wanted) = some mark := by
      rw [metadataKept, hkept] at hmetadata
      exact keptRestartMark?_eq_some.2
        ⟨hgiven, _, _, hmetadata, rfl, Std.ExtTreeMap.getElem?_insert_self⟩
    simp only [metadataKept, hkept, hagain]
  | none =>
    rw [metadataKept, hkept] at hmetadata
    cases hagain : keptRestartMark? e (carryForward e seen wanted) with
    | none => simp only [metadataKept, hkept, hagain]
    | some mark =>
      obtain ⟨-, m, annotations, hm, hannotations, hmark⟩ := keptRestartMark?_eq_some.1 hagain
      rw [hmetadata] at hm
      simp only [metadataKept, hkept, hagain, hm, Option.getD_some,
        keepRestartMark_eq_self hannotations hmark]

/-- Resources that were kept are kept again. -/
theorem keepResources_of_observed {spec seen : DeploymentSpec} {c : Container}
    (h : observedResources? spec = (keepResources seen c).resources) :
    keepResources spec c = keepResources seen c := by
  have hself : ∀ resources, c.resources = resources → { c with resources := resources } = c := by
    intro _ hpost
    obtain rfl := hpost
    rfl
  unfold keepResources at h ⊢
  cases hseen : observedResources? seen with
  | none =>
    simp only [hseen] at h ⊢
    rw [h]
    split
    · rename_i hc
      rw [hself _ hc, ite_self]
    · rfl
  | some resources =>
    simp only [hseen] at h ⊢
    by_cases hsame : equivalentResources (c.resources.getD {}) resources = true
    · rw [if_pos hsame] at h
      simp only [h, if_pos hsame]
    · rw [if_neg hsame] at h
      simp only [h, if_neg hsame]
      split
      · rename_i hc
        rw [hself _ hc, ite_self]
      · rfl

theorem containersKept_carryForward (e : VersionEntry) {seen wanted : DeploymentSpec} {p : PodSpec}
    (hp : wanted.template.spec = some p) :
    containersKept (carryForward e seen wanted) p.containers =
      containersKept seen p.containers := by
  cases hc : p.containers with
  | nil => rfl
  | cons c rest =>
    have hobserved : observedResources? (carryForward e seen wanted) =
        (keepResources seen c).resources := by
      simp [observedResources?, carryForward_eq, hp, hc, containersKept]
    simp only [containersKept, keepResources_of_observed hobserved]

theorem carryForward_carryForward (e : VersionEntry) (seen wanted : DeploymentSpec) :
    carryForward e (carryForward e seen wanted) wanted = carryForward e seen wanted :=
  carryForward_congr (replicasKept_carryForward e seen wanted)
    (metadataKept_carryForward e seen wanted) fun _ hp => containersKept_carryForward e hp

/-- From a deployment that says nothing, nothing is carried over. -/
theorem carryForward_blank (e : VersionEntry) (wanted : DeploymentSpec) :
    carryForward e {} wanted = wanted := by
  have hreplicas : replicasKept e {} wanted = wanted.replicas := rfl
  have hmark : keptRestartMark? e {} = none := by
    cases hmark : keptRestartMark? e {} with
    | none => rfl
    | some mark =>
      obtain ⟨-, _, _, hm, -⟩ := keptRestartMark?_eq_some.1 hmark
      exact absurd hm (by simp)
  have hmetadata : metadataKept e {} wanted.template.metadata = wanted.template.metadata := by
    rw [metadataKept, hmark]
  have hcontainers : ∀ containers, containersKept {} containers = containers := by
    intro containers
    cases containers <;> rfl
  rw [carryForward_eq, hreplicas, hmetadata]
  simp only [hcontainers, Option.map_id']

theorem carryForward_self (e : VersionEntry) (wanted : DeploymentSpec) :
    carryForward e wanted wanted = wanted := by
  have h := carryForward_carryForward e {} wanted
  rwa [carryForward_blank] at h

/-- A deployment with the spec that the app wants of it stays wanted as it is. -/
theorem deployment_of_spec {app : CompositeApp} {e : VersionEntry}
    {observed made : Option Deployment} {wanted : Deployment}
    (hwanted : deployment app e observed = .present wanted)
    (hmade : made.bind (·.spec) = wanted.spec) : deployment app e made = .present wanted := by
  unfold deployment at hwanted ⊢
  split at hwanted
  · exact absurd hwanted (by simp)
  · rename_i hkept
    rw [if_neg hkept, hmade]
    cases hseen : observed.bind (·.spec) with
    | some seen =>
      rw [hseen] at hwanted
      obtain rfl := Desired.present.inj hwanted
      simp only [freshDeployment, Option.map_some, carryForward_carryForward]
    | none =>
      rw [hseen] at hwanted
      obtain rfl := Desired.present.inj hwanted
      simp only [freshDeployment, Option.map_some, carryForward_self]

theorem metadata_deployment {app : CompositeApp} {e : VersionEntry} {observed : Option Deployment}
    {wanted : Deployment} (h : deployment app e observed = .present wanted) :
    wanted.metadata = app.versionMetadata e := by
  unfold deployment at h
  split at h
  · exact absurd h (by simp)
  · dsimp only at h
    split at h <;>
    · obtain rfl := Desired.present.inj h
      rfl

theorem deployment_eq_absent {app : CompositeApp} {e : VersionEntry}
    {observed : Option Deployment} : deployment app e observed = .absent ↔ e.isRemoved = true := by
  unfold deployment
  split
  · rename_i hremoved
    exact ⟨fun _ => hremoved, fun _ => rfl⟩
  · rename_i hkept
    refine ⟨fun h => ?_, fun h => absurd h hkept⟩
    dsimp only at h
    split at h <;> exact absurd h (by simp)

theorem deployment_ne_unmanaged {app : CompositeApp} {e : VersionEntry}
    {observed : Option Deployment} : deployment app e observed ≠ .unmanaged := by
  unfold deployment
  split
  · simp
  · dsimp only
    split <;> simp

theorem isRemoved_of_present {app : CompositeApp} {e : VersionEntry} {observed : Option Deployment}
    {d : Deployment} (h : deployment app e observed = .present d) : e.isRemoved = false := by
  refine Bool.eq_false_iff.2 fun hremoved => ?_
  exact absurd (h.symm.trans (deployment_eq_absent.2 hremoved)) (by simp)

/-- A version that is not to be removed gets a deployment, whatever is running. -/
theorem exists_present (app : CompositeApp) {e : VersionEntry} (hkept : e.isRemoved = false)
    (observed : Option Deployment) : ∃ d, deployment app e observed = .present d := by
  cases h : deployment app e observed with
  | present d => exact ⟨d, rfl⟩
  | absent => exact absurd (deployment_eq_absent.1 h) (by simp [hkept])
  | unmanaged => exact absurd h deployment_ne_unmanaged

end Desired

end CompositeApps
