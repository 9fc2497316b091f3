import CompositeApps.Proofs.Desired.Stability

/-!
What is compared of an object tells what its app decided. All that is written of an object can be
told from the part of it that is compared and from its name, except for the labels of an autoscaler:
these are not compared. A running deployment may keep its number of pods, its restart mark and the
spelling of its resources.
-/

namespace CompositeApps

/-! ### What an app writes of an object -/

def ObjectMeta.written (m : ObjectMeta) : ObjectMeta :=
  { name := m.name, namespaceName := m.namespaceName, labels := m.labels }

def Container.written (c : Container) : Container :=
  { c with extra := [] }

def PodSpec.written (p : PodSpec) : PodSpec :=
  { p with containers := p.containers.map Container.written, extra := [] }

def PodTemplate.written (t : PodTemplate) : PodTemplate :=
  { metadata := t.metadata.map fun m => { labels := m.labels, annotations := m.annotations }
    spec := t.spec.map PodSpec.written }

def DeploymentSpec.written (s : DeploymentSpec) : DeploymentSpec :=
  { s with
    minReadySeconds := none
    paused := none
    selector := { matchLabels := s.selector.matchLabels }
    template := s.template.written }

def ServiceSpec.written (s : ServiceSpec) : ServiceSpec :=
  { s with clusterIP := none, clusterIPs := none, extra := [] }

namespace Child

def canonical : Child → Child
  | virtualService v => virtualService { v with spec := v.spec.canonical }
  | c => c

/-- The fields of an object that its app writes, with one form for each number in them. All else
comes from the server or from others. -/
def written : Child → Child
  | deployment d => deployment {
      metadata := d.metadata.written, spec := d.spec.map DeploymentSpec.written }
  | service s => service { metadata := s.metadata.written, spec := s.spec.map ServiceSpec.written }
  | virtualService v => virtualService {
      metadata := v.metadata.written, spec := v.spec.canonical }
  | autoscaler a => autoscaler { metadata := a.metadata.written, spec := a.spec }
  | destinationRule r => destinationRule { metadata := r.metadata.written, spec := r.spec }

theorem projection_canonical (c : Child) :
    Projection.of c.canonical = (Projection.of c).canonical := by
  cases c <;> rfl

/-- Nothing is compared that is not written. -/
theorem projection_written (c : Child) :
    Projection.of c.written = (Projection.of c).canonical := by
  cases c with
  | deployment d =>
    rcases d with ⟨metadata, _ | spec, status⟩
    · rfl
    rcases spec with ⟨_, _, _, _, _, _, _, ⟨_ | m, _ | p⟩⟩ <;>
      simp [written, Projection.of, Projection.canonical, DeploymentView.of, ObjectMeta.written,
        ObjectMeta.labelsOrEmpty, DeploymentSpec.written, PodTemplate.written, PodSpec.written,
        Container.written, ContainerView.of]
  | service s =>
    rcases s with ⟨metadata, _ | spec, status⟩ <;> rfl
  | virtualService | autoscaler | destinationRule => rfl

theorem written_withMetadata {c : Child} {m : ObjectMeta} (h : m.written = c.metadata.written) :
    (c.withMetadata m).written = c.written := by
  cases c <;> simp only [written, withMetadata, h, metadata]

theorem eq_autoscaler_of_written {c : Child} {a : Autoscaler}
    (h : c.written = (autoscaler a).written) : ∃ b, c = autoscaler b ∧ b.spec = a.spec := by
  cases c with
  | autoscaler b =>
    simp only [written, autoscaler.injEq, Autoscaler.mk.injEq] at h
    exact ⟨b, rfl, h.2.1⟩
  | _ => exact Child.noConfusion h

theorem written_preparedUpdate (wanted observed : Child) :
    (wanted.preparedUpdate observed).written = wanted.written := by
  cases wanted with
  | service s =>
    cases observed with
    | service seen =>
      rcases s with ⟨metadata, spec, status⟩
      rcases seen with ⟨seenMetadata, seenSpec, seenStatus⟩
      cases spec <;> cases seenSpec <;> rfl
    | _ => rfl
  | _ => cases observed <;> rfl

end Child

/-! ### What a running deployment keeps -/

structure Kept where
  replicas : Option Int
  annotations : Option Labels
  resources : Option ResourceRequirements

/-- The choice: any number of pods within the bounds, the mark of a restart if the version gives
none, and another spelling of the amounts. The claims on resources are not looked at. -/
structure Kept.Allowed (k : Kept) (e : VersionEntry) : Prop where
  replicas : k.replicas = some e.minReplicas ∨
    ∃ n, k.replicas = some n ∧ e.minReplicas ≤ n ∧ n ≤ e.maxReplicas
  annotations : k.annotations = Desired.nonEmptyLabels? (Desired.templateAnnotations e) ∨
    e.restartMark = "" ∧ ∃ mark, k.annotations =
      some ((Desired.templateAnnotations e).insert Desired.restartMark mark)
  resources : ∃ r, k.resources = some r ∧
    (r = e.resources ∨ Quantity.sameList e.resources.limits r.limits = true ∧
      Quantity.sameList e.resources.requests r.requests = true)

def Deployment.keeping (d : Deployment) (k : Kept) : Deployment :=
  { d with spec := d.spec.map fun s =>
      { s with
        replicas := k.replicas
        template := {
          metadata := s.template.metadata.map fun m => { m with annotations := k.annotations }
          spec := s.template.spec.map fun p =>
            { p with containers :=
                p.containers.modifyHead fun c => { c with resources := k.resources } } } } }

/-- An object with all that is written of the one that its app wants, but for what a running
deployment may keep. -/
inductive Child.Renders (made : Child) (entry : Option VersionEntry) : Child → Prop where
  | exact {wanted : Child} (h : made.written = wanted.written) : Renders made entry wanted
  | keeping {e : VersionEntry} {d : Deployment} {k : Kept} (hentry : entry = some e)
      (hallowed : k.Allowed e) (h : made.written = (Child.deployment (d.keeping k)).written) :
      Renders made entry (.deployment d)

theorem Child.Renders.of_written {made other wanted : Child} {entry : Option VersionEntry}
    (h : other.Renders entry wanted) (hwritten : made.written = other.written) :
    made.Renders entry wanted := by
  cases h with
  | exact h => exact .exact (hwritten.trans h)
  | keeping hentry hallowed h => exact .keeping hentry hallowed (hwritten.trans h)

namespace Desired

variable {app : CompositeApp} {e : VersionEntry} {observed : Option Deployment}

theorem nonEmptyLabels?_getD (labels : Labels) : (nonEmptyLabels? labels).getD ∅ = labels := by
  unfold nonEmptyLabels?
  split
  · rename_i hempty
    exact (Std.ExtTreeMap.isEmpty_iff.1 hempty).symm
  · rfl

theorem exists_keepResources (seen : DeploymentSpec) (c : Container) :
    ∃ r, keepResources seen c = { c with resources := r } ∧
      (r = c.resources ∨ ∃ kept, r = some kept ∧
        equivalentResources (c.resources.getD {}) kept = true) := by
  unfold keepResources
  split
  · rename_i kept _
    split
    · rename_i hsame
      exact ⟨some kept, rfl, Or.inr ⟨kept, rfl, hsame⟩⟩
    · exact ⟨c.resources, rfl, Or.inl rfl⟩
  · exact ⟨c.resources, rfl, Or.inl rfl⟩

theorem exists_metadataKept (seen : DeploymentSpec) (m : ObjectMeta) :
    ∃ annotations, metadataKept e seen (some m) = some { m with annotations } ∧
      (annotations = m.annotations ∨ e.restartMark = "" ∧
        ∃ mark, annotations = some ((m.annotations.getD ∅).insert restartMark mark)) := by
  unfold metadataKept
  split
  · rename_i mark hmark
    exact ⟨_, rfl, Or.inr ⟨(keptRestartMark?_eq_some.1 hmark).1, mark, rfl⟩⟩
  · exact ⟨m.annotations, rfl, Or.inl rfl⟩

theorem replicasKept_cases (seen wanted : DeploymentSpec) :
    replicasKept e seen wanted = wanted.replicas ∨
      ∃ n, replicasKept e seen wanted = some n ∧ e.minReplicas ≤ n ∧ n ≤ e.maxReplicas := by
  unfold replicasKept
  cases hkept : keptReplicas? e seen with
  | none => exact Or.inl (Option.none_or)
  | some n => exact Or.inr ⟨n, Option.some_or, (keptReplicas?_eq_some.1 hkept).2⟩

theorem deployment_none (app : CompositeApp) (hkept : e.isRemoved = false) :
    deployment app e none = .present (freshDeployment app e) := by
  rw [deployment, hkept]
  rfl

/-- Whatever is running, a version gets the deployment that the app alone decides, but for what it
may keep. -/
theorem exists_kept {d : Deployment} (h : deployment app e observed = .present d) :
    ∃ k : Kept, k.Allowed e ∧ d = (freshDeployment app e).keeping k := by
  unfold deployment at h
  split at h
  · exact absurd h (by simp)
  dsimp only at h
  split at h
  · rename_i seen _
    obtain rfl := Desired.present.inj h
    obtain ⟨r, hr, hsame⟩ := exists_keepResources seen (container app e)
    obtain ⟨annotations, hannotations, hmarked⟩ := exists_metadataKept (e := e) seen
      { labels := some (Labels.merge (app.versionLabels e) e.templateLabels)
        annotations := nonEmptyLabels? (templateAnnotations e) }
    refine ⟨⟨replicasKept e seen { replicas := some e.minReplicas }, annotations, r⟩,
      ⟨replicasKept_cases seen _, ?_, ?_⟩, ?_⟩
    · rwa [nonEmptyLabels?_getD] at hmarked
    · rcases hsame with rfl | ⟨kept, rfl, hsame⟩
      · exact ⟨e.resources, rfl, Or.inl rfl⟩
      · exact ⟨kept, rfl, Or.inr (Bool.and_eq_true_iff.1 hsame)⟩
    · simp only [freshDeployment, Option.map_some, carryForward_eq, hannotations,
        Deployment.keeping, pod, containersKept, hr, List.modifyHead_cons]
      rfl
  · obtain rfl := Desired.present.inj h
    exact ⟨⟨some e.minReplicas, nonEmptyLabels? (templateAnnotations e), some e.resources⟩,
      ⟨Or.inl rfl, Or.inl rfl, e.resources, rfl, Or.inl rfl⟩, rfl⟩

end Desired

/-! ### Recovering an object from what is compared of it -/

def ContainerView.container (v : ContainerView) : Container :=
  { name := v.name
    image := v.image
    imagePullPolicy := some "Always"
    ports := v.ports
    resources := v.resources
    env := v.env
    readinessProbe := v.readinessProbe
    livenessProbe := v.livenessProbe
    terminationMessagePath := some "/dev/termination-log"
    terminationMessagePolicy := some "File"
    volumeMounts := v.volumeMounts }

def DeploymentView.spec (v : DeploymentView) : DeploymentSpec :=
  { replicas := v.replicas
    progressDeadlineSeconds := some 600
    revisionHistoryLimit := some 10
    selector := { matchLabels := v.selector }
    strategy := v.strategy
    template := {
      metadata := some { labels := v.templateLabels, annotations := v.templateAnnotations }
      spec := some {
        containers := v.containers.map ContainerView.container
        volumes := v.volumes
        restartPolicy := some "Always"
        dnsPolicy := some "ClusterFirst"
        schedulerName := some "default-scheduler"
        securityContext := some (.obj [])
        terminationGracePeriodSeconds := v.gracePeriod
        imagePullSecrets := v.imagePullSecrets
        nodeSelector := v.nodeSelector
        hostAliases := v.hostAliases
        affinity := v.affinity
        tolerations := v.tolerations } } }

def ServiceView.spec (v : ServiceView) : ServiceSpec :=
  { type := v.type, selector := v.selector, ports := v.ports, sessionAffinity := v.sessionAffinity }

def Projection.object (m : ObjectMeta) : Projection → Child
  | deployment v => .deployment { metadata := { m with labels := some v.labels }, spec := v.spec }
  | service v => .service { metadata := { m with labels := some v.labels }, spec := v.spec }
  | virtualService labels spec => .virtualService {
      metadata := { m with labels := some labels }, spec := spec }
  | autoscaler spec => .autoscaler { metadata := m, spec := spec }
  | destinationRule labels spec => .destinationRule {
      metadata := { m with labels := some labels }, spec := spec }

namespace Projection

theorem object_canonical (m : ObjectMeta) (p : Projection) :
    p.canonical.object m = (p.object m).canonical := by
  cases p <;> rfl

theorem written_object {m : ObjectMeta} (h : m.written = m) (p : Projection) :
    (p.object m).written = (p.object m).canonical := by
  have hlabels : ∀ labels, ({ m with labels } : ObjectMeta).written = { m with labels } :=
    fun labels => congrArg (fun m : ObjectMeta => { m with labels }) h
  cases p with
  | deployment v =>
    simp [object, Child.written, Child.canonical, hlabels, DeploymentView.spec,
      DeploymentSpec.written, PodTemplate.written, PodSpec.written, Container.written,
      ContainerView.container]
  | service v =>
    simp only [object, Child.written, Child.canonical, hlabels, Option.map_some]
    rfl
  | autoscaler spec => simp only [object, Child.written, Child.canonical, h]
  | virtualService | destinationRule =>
    simp only [object, Child.written, Child.canonical, hlabels]

theorem agrees_iff {p q : Projection} : p.agrees q = true ↔ p.canonical = q.canonical :=
  decide_eq_true_iff

end Projection

namespace ChildKind

variable {app app' : CompositeApp} {kind : ChildKind} {entry entry' : Option VersionEntry}
  {observed observed' : Option Child} {x y : Child}

def objectName (kind : ChildKind) (app : CompositeApp) (entry : Option VersionEntry) : String :=
  match kind.scope with
  | .app => app.name
  | .version => app.name ++ "-" ++ (entry.map (·.version)).getD ""

/-- A generated object has its name, the namespace of the app and labels, and all of it can be
recovered from what is compared of it. -/
theorem eq_object_of_desired (h : kind.desired app entry observed = .ok (.present x)) :
    ∃ labels, x.metadata =
        { name := some (kind.objectName app entry), namespaceName := some app.namespaceName,
          labels := some labels } ∧
      x = (Projection.of x).object x.metadata := by
  cases kind with
  | deployment =>
    cases entry with
    | none => exact absurd h (by simp [desired])
    | some e =>
      obtain ⟨d, hd, rfl⟩ := Desired.map_eq_present.1 (Except.ok.inj h)
      obtain ⟨k, -, rfl⟩ := Desired.exists_kept hd
      exact ⟨app.versionLabels e, rfl, rfl⟩
  | service =>
    obtain ⟨s, hs, rfl⟩ := Desired.map_eq_present.1 (Except.ok.inj h)
    obtain rfl := Desired.eq_of_service hs
    exact ⟨app.childLabels, rfl, rfl⟩
  | virtualService =>
    obtain ⟨desired, hdesired, hmap⟩ := map_eq_ok.1 h
    obtain ⟨v, rfl, rfl⟩ := Desired.map_eq_present.1 hmap
    have hmetadata := Desired.metadata_virtualService hdesired
    rcases v with ⟨metadata, spec⟩
    obtain rfl := hmetadata
    exact ⟨app.childLabels, rfl, rfl⟩
  | autoscaler =>
    cases entry with
    | none => exact absurd h (by simp [desired])
    | some e =>
      obtain ⟨a, ha, rfl⟩ := Desired.map_eq_present.1 (Except.ok.inj h)
      obtain ⟨-, rfl⟩ := Desired.eq_of_autoscaler ha
      exact ⟨app.versionLabels e, rfl, rfl⟩
  | destinationRule =>
    obtain ⟨desired, hdesired, hmap⟩ := map_eq_ok.1 h
    obtain ⟨r, rfl, rfl⟩ := Desired.map_eq_present.1 hmap
    have hmetadata := Desired.metadata_destinationRule hdesired
    rcases r with ⟨metadata, spec⟩
    obtain rfl := hmetadata
    exact ⟨app.childLabels, rfl, rfl⟩

/-- All of a generated object is written. -/
theorem written_of_desired (h : kind.desired app entry observed = .ok (.present x)) :
    x.written = x.canonical := by
  obtain ⟨labels, hmetadata, hobject⟩ := eq_object_of_desired h
  rw [hobject]
  exact Projection.written_object (by rw [hmetadata]; rfl) _

/-- What an app wants of an object, whatever is there, is what it wants where nothing is, but for
what a running deployment may keep. -/
theorem exists_renders (h : kind.desired app entry none = .ok (.present x))
    (observed : Option Child) :
    ∃ now, kind.desired app entry observed = .ok (.present now) ∧ now.Renders entry x := by
  cases kind with
  | deployment =>
    cases entry with
    | none => exact absurd h (by simp [desired])
    | some e =>
      obtain ⟨d, hd, rfl⟩ := Desired.map_eq_present.1 (Except.ok.inj h)
      have hkept := Desired.isRemoved_of_present hd
      obtain rfl := Desired.present.inj ((Desired.deployment_none app hkept).symm.trans hd)
      obtain ⟨now, hnow⟩ := Desired.exists_present app hkept (observed.bind (·.deployment?))
      obtain ⟨k, hallowed, rfl⟩ := Desired.exists_kept hnow
      exact ⟨_, congrArg Except.ok (Desired.map_eq_present.2 ⟨_, hnow, rfl⟩),
        .keeping rfl hallowed rfl⟩
  | _ => exact ⟨x, h, .exact rfl⟩

theorem objectName_congr (hname : app.name = app'.name)
    (hversion : entry.map (·.version) = entry'.map (·.version)) :
    kind.objectName app entry = kind.objectName app' entry' := by
  simp only [objectName, hname, hversion]

/-- Of two forms of an app and of one of its versions, the objects that are made for them agree just
if they are the same, or if they are autoscalers that differ in their labels only. -/
theorem agrees_iff_canonical_eq (hname : app.name = app'.name)
    (hnamespace : app.namespaceName = app'.namespaceName)
    (hversion : entry.map (·.version) = entry'.map (·.version))
    (hx : kind.desired app entry observed = .ok (.present x))
    (hy : kind.desired app' entry' observed' = .ok (.present y)) :
    (Projection.of x).agrees (Projection.of y) = true ↔
      x.canonical = y.canonical ∨
        ∃ a b, x = .autoscaler a ∧ y = .autoscaler b ∧ a.spec = b.spec := by
  obtain ⟨labels, hxMeta, hxObject⟩ := eq_object_of_desired hx
  obtain ⟨labels', hyMeta, hyObject⟩ := eq_object_of_desired hy
  rw [objectName_congr hname hversion, hnamespace] at hxMeta
  rw [Projection.agrees_iff]
  constructor
  · intro h
    -- Where the labels are compared, those of the metadata do not matter.
    have hcanonical : (Projection.of x).canonical.object x.metadata =
        (Projection.of x).canonical.object y.metadata →
        x.canonical = y.canonical := by
      intro hmetadata
      rw [hxObject, ← Projection.object_canonical, hmetadata, h, Projection.object_canonical,
        ← hyObject]
    cases x with
    | autoscaler a =>
      cases y with
      | autoscaler b => exact Or.inr ⟨a, b, rfl, rfl, Projection.autoscaler.inj h⟩
      | _ => exact Projection.noConfusion h
    | _ => exact Or.inl (hcanonical (by rw [hxMeta, hyMeta]; rfl))
  · rintro (h | ⟨a, b, rfl, rfl, hspec⟩)
    · rw [← Child.projection_canonical, h, Child.projection_canonical]
    · exact congrArg Projection.autoscaler hspec

end ChildKind

end CompositeApps
