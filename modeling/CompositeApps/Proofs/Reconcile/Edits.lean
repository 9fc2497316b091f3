import CompositeApps.Proofs.Desired.DriftDetection
import CompositeApps.Proofs.Reconcile.Idempotence

/-!
What becomes of an edit of an app. If all objects of an app were made for it, in whatever form it
had then, a pass that converges leaves none of them with anything that the app does not want of it
now, but for what a running deployment may keep, and for the labels of an autoscaler that is right
otherwise.
-/

namespace CompositeApps

def Resource.Carries (r : Resource) (c : Child) : Prop :=
  ∃ made, r = .child made ∧ made.written = c.written

namespace Resource.Carries

variable {r : Resource} {c : Child}

theorem refl (c : Child) : (Resource.child c).Carries c :=
  ⟨c, rfl, rfl⟩

theorem mapMetadata {f : ObjectMeta → ObjectMeta} (h : r.Carries c)
    (hf : ∀ m, (f m).written = m.written) : (r.mapMetadata f).Carries c := by
  obtain ⟨made, rfl, hmade⟩ := h
  exact ⟨_, rfl, (Child.written_withMetadata (hf _)).trans hmade⟩

theorem withStatusOf (h : r.Carries c) (source : Resource) : (r.withStatusOf source).Carries c := by
  obtain ⟨made, rfl, hmade⟩ := h
  unfold Resource.withStatusOf
  split
  · exact absurd ‹Resource.child made = _› (by simp)
  all_goals
    try obtain rfl := Resource.child.inj ‹Resource.child made = _›
    exact ⟨_, rfl, hmade⟩

theorem stamped (h : r.Carries c) (version : Nat) : (Cluster.stamped version r).Carries c :=
  h.mapMetadata fun _ => rfl

theorem newborn (h : r.Carries c) (version : Nat) : (Cluster.newborn version r).Carries c :=
  (h.stamped version).mapMetadata fun _ => rfl

theorem doomed (h : r.Carries c) (version : Nat) : (Cluster.doomed version r).Carries c :=
  (h.stamped version).mapMetadata fun _ => rfl

theorem replacement (h : r.Carries c) (stored : Resource) (version : Nat) :
    (Cluster.replacement stored r version).Carries c :=
  (h.withStatusOf stored).mapMetadata fun _ => rfl

end Resource.Carries

namespace CompositeApp

variable {app : CompositeApp} {kind : ChildKind} {target : Target} {before after : Option Resource}
  {wanted : Child}

/-- An object that was made for the app, in whatever form the app had then. -/
def OnceMade (app : CompositeApp) (kind : ChildKind) (target : Target) (made : Child) : Prop :=
  ∃ old entry observed wanted, old.name = app.name ∧ old.namespaceName = app.namespaceName ∧
    entry.map (·.version) = target.entry.map (·.version) ∧
    kind.desired old entry observed = .ok (.present wanted) ∧ made.written = wanted.written

def AllMade (app : CompositeApp) (c : Cluster) : Prop :=
  ∀ kind, ∀ target ∈ app.targets kind.scope, ∀ made,
    c.get? (app.targetKey kind target) = some (.child made) → app.OnceMade kind target made

/-- An edit of the app makes no difference, as long as nothing is stored for a new version. -/
theorem AllMade.of_edit {c : Cluster} (h : app.AllMade c) (edited : CompositeApp)
    (hname : edited.name = app.name) (hnamespace : edited.namespaceName = app.namespaceName)
    (hversions : ∀ e ∈ edited.spec.apps, (∃ was ∈ app.spec.apps, was.version = e.version) ∨
      ∀ kind, c.get? (edited.targetKey kind ⟨edited.versionName e, some e⟩) = none) :
    edited.AllMade c := by
  intro kind target htarget made hmade
  have hsame : (∃ was ∈ app.targets kind.scope, was.name = target.name ∧
      was.entry.map (·.version) = target.entry.map (·.version)) := by
    cases hscope : kind.scope with
    | app =>
      rw [hscope] at htarget
      obtain rfl := List.mem_singleton.1 htarget
      exact ⟨⟨app.name, none⟩, List.mem_singleton_self _, hname.symm, rfl⟩
    | version =>
      rw [hscope] at htarget
      obtain ⟨e, he, rfl⟩ := List.mem_map.1 htarget
      rcases hversions e he with ⟨was, hwas, hversion⟩ | hnone
      · refine ⟨⟨app.versionName was, some was⟩, List.mem_map_of_mem hwas, ?_, ?_⟩
        · simp only [versionName, hname, hversion]
        · simp only [Option.map_some, hversion]
      · exact absurd ((hnone kind).symm.trans hmade) (by simp)
  obtain ⟨was, hwas, hwasName, hversion⟩ := hsame
  rw [targetKey, hnamespace, ← hwasName] at hmade
  obtain ⟨old, entry, observed, wanted, holdName, holdNamespace, hentry, hwanted, hwritten⟩ :=
    h kind was hwas made hmade
  exact ⟨old, entry, observed, wanted, holdName.trans hname.symm,
    holdNamespace.trans hnamespace.symm, hentry.trans hversion, hwanted, hwritten⟩

theorem written_of_claim {name : String} {object claimed : Child}
    (h : app.claim name object = .ok claimed) : claimed.written = object.written := by
  obtain ⟨r, -, rfl⟩ := claim_eq_ok h
  exact Child.written_withMetadata rfl

/-- What is brought in line stays as it is, or goes or begins to if the app does not want it, or
carries what the app wants of it. -/
theorem Brought.cases (h : app.Brought kind target before after) :
    after = before ∨
      kind.wanted app target.entry (before.bind (·.child?)) = .absent ∧ (after = none ∨
        ∃ seen r, before = some (.child seen) ∧ after = some r ∧ r.Carries seen) ∨
      ∃ wanted r, kind.wanted app target.entry (before.bind (·.child?)) = .present wanted ∧
        after = some r ∧ r.Carries wanted := by
  cases hplan : app.plan kind target before with
  | error e =>
    rw [Brought, hplan] at h
    exact Or.inl h
  | ok action =>
    rw [Brought, hplan] at h
    cases verdict_of_plan hplan with
    | unmanaged | gone | right =>
      cases h
      exact Or.inl rfl
    | obsolete seen hwanted hseen =>
      cases h with
      | deleted => exact Or.inr (Or.inl ⟨hwanted, Or.inl rfl⟩)
      | doomed stored version =>
        obtain rfl := Resource.child?_eq_some.1 hseen
        have hcarries := (Resource.Carries.refl seen).doomed version
        exact Or.inr (Or.inl ⟨hwanted, Or.inr ⟨seen, _, rfl, rfl, hcarries⟩⟩)
    | missing wanted claimed hwanted _ hclaim =>
      cases h with
      | created object version =>
        have hclaimed : (Resource.child claimed).Carries wanted :=
          ⟨claimed, rfl, written_of_claim hclaim⟩
        exact Or.inr (Or.inr ⟨wanted, _, hwanted, rfl, hclaimed.newborn version⟩)
    | drifted wanted seen claimed hwanted _ _ hclaim =>
      cases h with
      | updated object stored version =>
        have hprepared : (Resource.child (claimed.preparedUpdate seen)).Carries wanted :=
          ⟨_, rfl, (claimed.written_preparedUpdate seen).trans (written_of_claim hclaim)⟩
        exact Or.inr (Or.inr ⟨wanted, _, hwanted, rfl, hprepared.replacement stored version⟩)

/-- An object that was made for the app before it is brought in line was made for it afterwards. -/
theorem Brought.onceMade (hvalid : app.validate = .ok ())
    (h : app.Brought kind target before after)
    (hbefore : ∀ made, before = some (.child made) → app.OnceMade kind target made) {made : Child}
    (hmade : after = some (.child made)) : app.OnceMade kind target made := by
  rcases h.cases with heq | ⟨-, hnone | ⟨seen, r, hseen, hr, hcarries⟩⟩ |
    ⟨wanted, r, hwanted, hr, hcarries⟩
  · exact hbefore made (heq.symm.trans hmade)
  · exact absurd (hnone.symm.trans hmade) (by simp)
  · obtain ⟨other, rfl, hwritten⟩ := hcarries
    obtain rfl := Resource.child.inj (Option.some.inj (hr.symm.trans hmade))
    obtain ⟨old, entry, observed, y, hname, hnamespace, hversion, hy, hseenWritten⟩ :=
      hbefore seen hseen
    exact ⟨old, entry, observed, y, hname, hnamespace, hversion, hy, hwritten.trans hseenWritten⟩
  · obtain ⟨other, rfl, hwritten⟩ := hcarries
    obtain rfl := Resource.child.inj (Option.some.inj (hr.symm.trans hmade))
    have hdesired := kind.desired_eq_wanted hvalid target.entry (before.bind (·.child?))
    rw [hwanted] at hdesired
    exact ⟨app, target.entry, _, wanted, rfl, rfl, rfl, hdesired, hwritten⟩

/-- An object that was made for the app and agrees with what the app wants now is as the app wants
it, or is an autoscaler with other labels. -/
theorem OnceMade.cases_of_agrees {made now : Child} {observed : Option Child}
    (h : app.OnceMade kind target made)
    (hnow : kind.desired app target.entry observed = .ok (.present now))
    (hagrees : (Projection.of now).agrees (Projection.of made) = true) :
    made.written = now.written ∨
      ∃ a b, now = .autoscaler a ∧ made = .autoscaler b ∧ b.spec = a.spec := by
  obtain ⟨old, entry, observed', y, hname, hnamespace, hversion, hy, hwritten⟩ := h
  have hsame : (Projection.of y).agrees (Projection.of now) = true := by
    rw [Projection.agrees_iff, Projection.agrees_iff.1 hagrees, ← Child.projection_written,
      ← hwritten, Child.projection_written]
  rcases (ChildKind.agrees_iff_canonical_eq hname hnamespace hversion hy hnow).1 hsame with
    hcanonical | ⟨a, b, rfl, rfl, hspec⟩
  · left
    rw [hwritten, ChildKind.written_of_desired hy, hcanonical, ChildKind.written_of_desired hnow]
  · obtain ⟨c, rfl, hc⟩ := Child.eq_autoscaler_of_written hwritten
    exact Or.inr ⟨b, c, rfl, rfl, hc.trans hspec⟩

/-- What is brought in line without a failure is as the app wants it, but for what a running
deployment may keep, or is an autoscaler with the right spec that is left as it is. -/
theorem Brought.exists_renders {action : Action} (hvalid : app.validate = .ok ())
    (htarget : target ∈ app.targets kind.scope) (h : app.Brought kind target before after)
    (hplan : app.plan kind target before = .ok action)
    (hbefore : ∀ made, before = some (.child made) → app.OnceMade kind target made)
    (hwanted : kind.desired app target.entry none = .ok (.present wanted)) :
    ∃ made, after = some (.child made) ∧ (made.Renders target.entry wanted ∨
      ∃ a b, wanted = .autoscaler a ∧ made = .autoscaler b ∧ b.spec = a.spec ∧
        before = some (.child made)) := by
  obtain ⟨now, hnow, hrenders⟩ := ChildKind.exists_renders hwanted (before.bind (·.child?))
  have hnowWanted : kind.wanted app target.entry (before.bind (·.child?)) = .present now := by
    rw [ChildKind.wanted, hnow]
    rfl
  rcases h.cases with heq | ⟨habsent, -⟩ | ⟨again, r, hagain, hr, made, rfl, hwritten⟩
  · have hkeep : app.plan kind target before = .ok .keep := by
      rw [Brought, hplan, heq] at h
      exact plan_of_yields hvalid htarget hplan h
    obtain ⟨made, rfl, -, -, hagrees⟩ := eq_child_of_plan_eq_keep hkeep hnowWanted
    refine ⟨made, heq, ?_⟩
    rcases (hbefore made rfl).cases_of_agrees hnow hagrees with hwritten | ⟨a, b, rfl, rfl, hspec⟩
    · exact Or.inl (hrenders.of_written hwritten)
    · cases hrenders with
      | exact hwritten =>
        obtain ⟨c, rfl, hc⟩ := Child.eq_autoscaler_of_written hwritten.symm
        exact Or.inr ⟨c, b, rfl, rfl, hspec.trans hc.symm, rfl⟩
      | keeping _ _ hwritten => exact Child.noConfusion hwritten
  · exact absurd (habsent.symm.trans hnowWanted) (by simp)
  · obtain rfl := Desired.present.inj (hagain.symm.trans hnowWanted)
    exact ⟨made, hr, Or.inl (hrenders.of_written hwritten)⟩

end CompositeApp

/-- An app and any earlier form of it, of the same name and namespace, with any earlier form of one
of its versions: the objects that are made for them agree just if they are the same, or autoscalers
that differ in their labels only. If all objects of a valid live app were made for it, in such
forms, then after a pass in a world without faults that converges they still were, and each that
the app wants is as the app wants it now, but for what a running deployment may keep; an autoscaler
with the right spec may be left as it is. -/
theorem World.reconcile_follows_edits (app : CompositeApp) :
    (∀ (kind : ChildKind) (old : CompositeApp) (entry entry' : Option VersionEntry) (x y : Child),
      old.name = app.name → old.namespaceName = app.namespaceName →
      entry.map (·.version) = entry'.map (·.version) →
      kind.desired old entry none = .ok (.present x) →
      kind.desired app entry' none = .ok (.present y) →
      ((Projection.of x).agrees (Projection.of y) = true ↔
        x.canonical = y.canonical ∨
          ∃ a b, x = .autoscaler a ∧ y = .autoscaler b ∧ a.spec = b.spec)) ∧
    ∀ (w : World) (elapsed : Duration) (n : Nat), w.store.rules = [] → w.store.cluster.Keyed →
      app.validate = .ok () → app.metadata.isTerminating = false →
      w.store.cluster.get? app.storeKey = some (.app app) →
      app.ChildrenAlone w.store.cluster → app.AllMade w.store.cluster →
      (w.reconcile app elapsed).1 = .ok (.converged true n) →
      app.AllMade (w.reconcile app elapsed).2.store.cluster ∧
      ∀ kind, ∀ target ∈ app.targets kind.scope, ∀ wanted,
        kind.desired app target.entry none = .ok (.present wanted) →
        ∃ made, (w.reconcile app elapsed).2.store.cluster.get? (app.targetKey kind target) =
            some (.child made) ∧
          (made.Renders target.entry wanted ∨
            ∃ a b, wanted = .autoscaler a ∧ made = .autoscaler b ∧ b.spec = a.spec ∧
              w.store.cluster.get? (app.targetKey kind target) = some (.child made)) := by
  constructor
  · intro kind old entry entry' x y hname hnamespace hversion hx hy
    exact ChildKind.agrees_iff_canonical_eq hname hnamespace hversion hx hy
  intro w elapsed n hcalm hkeyed hvalid hlive hstored halone hmade hconverged
  obtain ⟨after, ⟨p, hp, hresult, hline, -⟩, hstore⟩ := reconcile_of_ends elapsed
    (Pass.reconcile_valid_ends (w := { w with changes := [] }) hcalm hkeyed hvalid hlive hstored
      fun kind _ target _ => halone.deletesAlone kind target)
  have hclean : p.Clean :=
    (Progress.outcome_eq_converged.1 (Except.ok.inj (hresult.symm.trans hconverged))).1
  rw [hp] at hclean
  rw [hstore]
  constructor
  · intro kind target htarget made hafter
    exact (hline.brought kind kind.mem_all target htarget).onceMade hvalid
      (hmade kind target htarget) hafter
  · intro kind target htarget wanted hwanted
    have hbrought := hline.brought kind kind.mem_all target htarget
    cases hplan : app.plan kind target (w.store.cluster.get? (app.targetKey kind target)) with
    | error e =>
      have hreported := CompositeApp.error_mem_reports.2 ⟨target, htarget, hplan⟩
      exact absurd hreported ((Progress.clean_foldl_after.1 hclean).2 kind kind.mem_all e)
    | ok action =>
      exact hbrought.exists_renders hvalid htarget hplan (hmade kind target htarget) hwanted

namespace Example

def boothVersion (image : String) : VersionEntry :=
  { version := "v1", image := image, minReplicas := 1, maxReplicas := 3, port := 8080 }

def booth (team image : String) : CompositeApp :=
  { metadata := {
      name := some "booth", namespaceName := some "default", uid := some "booth-uid"
      labels := some ((∅ : Labels).insert "team" team) }
    spec := { apps := [boothVersion image] } }

def opened : World :=
  { store := { cluster := (Cluster.seed {} (.app (booth "a" "booth:1"))).2 } }

def storedBooth (w : World) : CompositeApp :=
  ((w.store.cluster.get? (booth "a" "booth:1").storeKey).bind (·.app?)).getD default

def running : World :=
  (opened.reconcile (storedBooth opened) default).2

def editedBooth : CompositeApp :=
  let app := storedBooth running
  { app with
    metadata := { app.metadata with labels := (booth "b" "booth:2").metadata.labels }
    spec := (booth "b" "booth:2").spec }

def edited : World :=
  { running with store := { running.store with
      cluster := (running.store.cluster.seed (.app editedBooth)).2 } }

end Example

/-- After the edit a pass converges with four writes. It leaves a deployment for the new image. -/
theorem World.reconcile_follows_edits_example :
    (Example.edited.reconcile (Example.storedBooth Example.edited) default).1 =
      .ok (.converged true 4) ∧
    ∀ kind, ∀ target ∈ (Example.storedBooth Example.edited).targets kind.scope, ∀ wanted,
      kind.desired (Example.storedBooth Example.edited) target.entry none =
        .ok (.present wanted) → wanted.kind ≠ .autoscaler →
      ∃ made, (Example.edited.reconcile (Example.storedBooth Example.edited)
          default).2.store.cluster.get?
            ((Example.storedBooth Example.edited).targetKey kind target) = some (.child made) ∧
        made.Renders target.entry wanted := by
  have hopened : (Example.storedBooth Example.opened).AllMade Example.opened.store.cluster := by
    intro kind target _ made hmade
    rcases Cluster.eq_or_get?_of_put hmade with h | h
    · exact Resource.noConfusion h
    · rw [Cluster.get?_empty] at h
      exact absurd h (by simp)
  have hfirst : (Example.opened.reconcile (Example.storedBooth Example.opened) default).1 =
      .ok (.converged true 5) := by rfl
  have hsecond : (Example.edited.reconcile (Example.storedBooth Example.edited) default).1 =
      .ok (.converged true 4) := by rfl
  obtain ⟨hrunning, -⟩ := (World.reconcile_follows_edits (Example.storedBooth Example.opened)).2
    Example.opened default 5 rfl (by decide +kernel) (by rfl) (by decide +kernel)
    (by decide +kernel) (by decide +kernel) hopened hfirst
  have hkept : (Example.storedBooth Example.opened).AllMade Example.edited.store.cluster := by
    intro kind target htarget made hmade
    rcases Cluster.eq_or_get?_of_put hmade with h | h
    · exact Resource.noConfusion h
    · exact hrunning kind target htarget made h
  have hversions : ∀ e ∈ (Example.storedBooth Example.edited).spec.apps,
      ∃ was ∈ (Example.storedBooth Example.opened).spec.apps, was.version = e.version := by
    decide +kernel
  have hedited := hkept.of_edit (Example.storedBooth Example.edited) (by decide +kernel)
    (by decide +kernel) fun e he => Or.inl (hversions e he)
  obtain ⟨-, hfollows⟩ := (World.reconcile_follows_edits (Example.storedBooth Example.edited)).2
    Example.edited default 4 rfl (by decide +kernel) (by rfl) (by decide +kernel)
    (by decide +kernel) (by decide +kernel) hedited hsecond
  refine ⟨hsecond, fun kind target htarget wanted hwanted hkind => ?_⟩
  obtain ⟨made, hmade, hrenders | ⟨a, b, rfl, -⟩⟩ := hfollows kind target htarget wanted hwanted
  · exact ⟨made, hmade, hrenders⟩
  · exact absurd rfl hkind

/-- The autoscaler is left with the label of the first team, though the app wants another one of it
by then: the two agree. -/
theorem World.edit_leaves_label :
    (Example.edited.reconcile (Example.storedBooth Example.edited) default).1 =
      .ok (.converged true 4) ∧
    ∃ was wanted,
      ChildKind.autoscaler.desired (Example.storedBooth Example.opened)
        (some (Example.boothVersion "booth:1")) none = .ok (.present was) ∧
      ChildKind.autoscaler.desired (Example.storedBooth Example.edited)
        (some (Example.boothVersion "booth:2")) none = .ok (.present wanted) ∧
      was.metadata.labels ≠ wanted.metadata.labels ∧
      (Projection.of was).agrees (Projection.of wanted) = true ∧
      ((Example.edited.reconcile (Example.storedBooth Example.edited)
        default).2.store.cluster.get? ⟨.child .autoscaler, "default", "booth-v1"⟩).map
          (·.metadata.labels) = some was.metadata.labels := by
  refine ⟨by rfl, _, _, rfl, rfl, ?_, ?_, ?_⟩ <;> decide +kernel

end CompositeApps
