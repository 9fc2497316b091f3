import CompositeApps.Proofs.Reconcile.LivePass

/-!
What a pass over a valid live app does to everything that is stored. An object that is wanted is
made what the app wants of it, unless one of its name is still on its way out, for which the pass
asks to be run again; an object that must not exist goes; all else stays as it is.
-/

namespace CompositeApps

namespace CompositeApp

variable {app : CompositeApp} {kind : ChildKind} {target : Target} {before after : Option Resource}

def Blocked (app : CompositeApp) (kind : ChildKind) (target : Target) (stored : Option Resource) :
    Prop :=
  ∃ seen wanted, stored = some (.child seen) ∧ seen.metadata.isTerminating = true ∧
    kind.desired app target.entry (some seen) = .ok (.present wanted)

/-- What a pass leaves stored for a target, by what the app wants of it. -/
structure Attended (app : CompositeApp) (kind : ChildKind) (target : Target)
    (before after : Option Resource) : Prop where
  present : ∀ wanted,
    kind.desired app target.entry (before.bind (·.child?)) = .ok (.present wanted) →
    (∀ seen, before = some (.child seen) → seen.metadata.isTerminating = false) →
    ∃ made, after = some (.child made) ∧ made.metadata.isTerminating = false ∧
      app.controls made = true ∧
      ∃ again, kind.desired app target.entry (some made) = .ok (.present again) ∧
        (Projection.of again).agrees (Projection.of made) = true
  absent : kind.desired app target.entry (before.bind (·.child?)) = .ok .absent →
    ∀ r, after = some r → r.metadata.isTerminating = true
  unmanaged : kind.desired app target.entry (before.bind (·.child?)) = .ok .unmanaged →
    after = before
  terminating : ∀ seen, before = some (.child seen) → seen.metadata.isTerminating = true →
    after = before

/-- With a name and a uid an app can own objects. -/
theorem controllerReference?_ne_none {name uid : String} (hname : app.metadata.name = some name)
    (huid : app.metadata.uid = some uid) : app.controllerReference? ≠ none := by
  simp [controllerReference?, hname, huid]

/-- An app that can own objects fails at a target only if the target is blocked. -/
theorem plan_eq_error {e : ApplyError} (hvalid : app.validate = .ok ())
    (howner : app.controllerReference? ≠ none) (hread : before.all (·.isFinite) = true)
    (hplan : app.plan kind target before = .error e) :
    app.Blocked kind target before ∧ e.isRetryable = true := by
  have hverdict := app.choice_verdict kind target before
  have hdesired := kind.desired_eq_wanted hvalid target.entry (before.bind (·.child?))
  rw [← plan_of_isFinite hread, hplan] at hverdict
  cases hverdict with
  | going wanted seen hwanted hseen hgoing =>
    obtain ⟨stored, rfl, hchild⟩ := Option.bind_eq_some_iff.1 hseen
    obtain rfl := Resource.child?_eq_some.1 hchild
    rw [hwanted] at hdesired
    exact ⟨⟨seen, wanted, rfl, hgoing, hdesired⟩, rfl⟩
  | unclaimed wanted _ hnone => exact absurd hnone howner

/-- At a blocked target the pass fails, and leaves it as it is. -/
theorem Blocked.exists_plan_eq_error (hread : before.all (·.isFinite) = true)
    (h : app.Blocked kind target before) : ∃ e, app.plan kind target before = .error e := by
  obtain ⟨seen, wanted, rfl, hgoing, hdesired⟩ := h
  have hwanted : kind.wanted app target.entry (some seen) = .present wanted := by
    rw [ChildKind.wanted, hdesired]
    rfl
  refine ⟨.terminating wanted.kind.name target.name, ?_⟩
  rw [plan_of_isFinite hread]
  simp only [choice, Option.bind_some, Resource.child?, hwanted, Action.decide, Action.forPresent,
    hgoing, if_true]

/-- What is wanted before a pass is wanted after it, and made as it is wanted. -/
theorem Brought.exists_made {wanted : Child} (hvalid : app.validate = .ok ())
    (htarget : target ∈ app.targets kind.scope) (howner : app.controllerReference? ≠ none)
    (hread : before.all (·.isFinite) = true) (h : app.Brought kind target before after)
    (hwanted : kind.desired app target.entry (before.bind (·.child?)) = .ok (.present wanted))
    (hlive : ∀ seen, before = some (.child seen) → seen.metadata.isTerminating = false) :
    ∃ made, after = some (.child made) ∧ made.metadata.isTerminating = false ∧
      app.controls made = true ∧
      ∃ again, kind.desired app target.entry (some made) = .ok (.present again) ∧
        (Projection.of again).agrees (Projection.of made) = true := by
  unfold Brought at h
  cases hplan : app.plan kind target before with
  | error e =>
    obtain ⟨⟨seen, _, hseen, hgoing, -⟩, -⟩ := plan_eq_error hvalid howner hread hplan
    exact absurd (hlive seen hseen) (by simp [hgoing])
  | ok action =>
    rw [hplan] at h
    have hkeep := plan_of_yields hvalid htarget hplan h
    have hdesired := kind.desired_eq_wanted hvalid target.entry (after.bind (·.child?))
    cases hagain : kind.wanted app target.entry (after.bind (·.child?)) with
    | absent =>
      rw [hagain] at hdesired
      have hbefore := ChildKind.desired_absent hdesired (before.bind (·.child?))
      exact absurd (hbefore.symm.trans hwanted) (by simp)
    | unmanaged =>
      rw [hagain] at hdesired
      have hbefore := ChildKind.desired_unmanaged hdesired (before.bind (·.child?))
      exact absurd (hbefore.symm.trans hwanted) (by simp)
    | present again =>
      obtain ⟨made, rfl, hmadeLive, hcontrols, hagrees⟩ := eq_child_of_plan_eq_keep hkeep hagain
      rw [hagain] at hdesired
      exact ⟨made, rfl, hmadeLive, hcontrols, again, hdesired, hagrees⟩

/-- What must not exist before a pass is gone after it, or on its way out. -/
theorem Brought.isTerminating_of_absent {r : Resource} (hvalid : app.validate = .ok ())
    (hchild : ∀ r, before = some r → ∃ seen, r = .child seen)
    (hread : before.all (·.isFinite) = true) (h : app.Brought kind target before after)
    (hwanted : kind.desired app target.entry (before.bind (·.child?)) = .ok .absent)
    (hr : after = some r) : r.metadata.isTerminating = true := by
  have hdesired := kind.desired_eq_wanted hvalid target.entry (before.bind (·.child?))
  have hverdict := app.choice_verdict kind target before
  have habsent := Except.ok.inj (hdesired.symm.trans hwanted)
  rw [Brought, plan_of_isFinite hread] at h
  generalize app.choice kind target before = chosen at h hverdict
  cases hverdict with
  | gone _ hgone =>
    cases h
    obtain ⟨seen, rfl⟩ := hchild r hr
    exact hgone seen (by rw [hr]; rfl)
  | obsolete =>
    cases h with
    | deleted => exact absurd hr (by simp)
    | doomed stored version =>
      obtain rfl := Option.some.inj hr
      simp [ObjectMeta.isTerminating]
  | unmanaged hother | missing _ _ hother | going _ _ hother | right _ _ hother
  | drifted _ _ _ hother | unclaimed _ hother => exact absurd (hother.symm.trans habsent) (by simp)

/-- What somebody else looks after, and what is on its way out, is left as it is. -/
theorem Brought.eq_of_left (hvalid : app.validate = .ok ())
    (hread : before.all (·.isFinite) = true) (h : app.Brought kind target before after)
    (hleft : kind.desired app target.entry (before.bind (·.child?)) = .ok .unmanaged ∨
      ∃ seen, before = some (.child seen) ∧ seen.metadata.isTerminating = true) :
    after = before := by
  have hdesired := kind.desired_eq_wanted hvalid target.entry (before.bind (·.child?))
  have hverdict := app.choice_verdict kind target before
  have hunmanaged : (∀ seen, before.bind (·.child?) = some seen →
      seen.metadata.isTerminating = false) →
      kind.wanted app target.entry (before.bind (·.child?)) = .unmanaged := by
    intro hlive
    rcases hleft with hunmanaged | ⟨going, rfl, hgoing⟩
    · exact Except.ok.inj (hdesired.symm.trans hunmanaged)
    · exact absurd (hlive going rfl) (by simp [hgoing])
  rw [Brought, plan_of_isFinite hread] at h
  generalize app.choice kind target before = chosen at h hverdict
  cases hverdict with
  | unmanaged | gone | right =>
    cases h
    rfl
  | going | unclaimed => exact h
  | obsolete seen hwanted hseen hlive =>
    have h := hunmanaged fun other hother => by
      rwa [← Option.some.inj (hseen.symm.trans hother)]
    exact absurd (hwanted.symm.trans h) (by simp)
  | drifted wanted seen _ hwanted hseen hlive =>
    have h := hunmanaged fun other hother => by
      rwa [← Option.some.inj (hseen.symm.trans hother)]
    exact absurd (hwanted.symm.trans h) (by simp)
  | missing wanted _ hwanted hmissing =>
    have h := hunmanaged fun other hother => absurd (hmissing.symm.trans hother) (by simp)
    exact absurd (hwanted.symm.trans h) (by simp)

/-- What is brought in line is attended to. -/
theorem Brought.attended (hvalid : app.validate = .ok ())
    (htarget : target ∈ app.targets kind.scope)
    (howner : app.controllerReference? ≠ none)
    (hchild : ∀ r, before = some r → ∃ seen, r = .child seen)
    (hread : before.all (·.isFinite) = true) (h : app.Brought kind target before after) :
    app.Attended kind target before after where
  present _ hwanted hlive := h.exists_made hvalid htarget howner hread hwanted hlive
  absent hwanted _ hr := h.isTerminating_of_absent hvalid hchild hread hwanted hr
  unmanaged hwanted := h.eq_of_left hvalid hread (Or.inl hwanted)
  terminating seen hseen hgoing := h.eq_of_left hvalid hread (Or.inr ⟨seen, hseen, hgoing⟩)

end CompositeApp

def CompositeApp.BlockedIn (app : CompositeApp) (c : Cluster) : Prop :=
  ∃ kind, ∃ target ∈ app.targets kind.scope,
    app.Blocked kind target (c.get? (app.targetKey kind target))

/-- What is reported as failed is that a target is blocked. -/
theorem CompositeApp.error_mem_reports_iff_blocked {app : CompositeApp} {c : Cluster}
    (hvalid : app.validate = .ok ()) (howner : app.controllerReference? ≠ none)
    (hfinite : c.Finite) :
    (∃ kind ∈ ChildKind.all, ∃ e, .error e ∈ app.reports c kind) ↔ app.BlockedIn c := by
  constructor
  · intro h
    obtain ⟨kind, -, e, he⟩ := h
    obtain ⟨target, htarget, hplan⟩ := error_mem_reports.1 he
    exact ⟨kind, target, htarget, (plan_eq_error hvalid howner (hfinite.all_get? _) hplan).1⟩
  · intro h
    obtain ⟨kind, target, htarget, hblocked⟩ := h
    obtain ⟨e, hplan⟩ := hblocked.exists_plan_eq_error (hfinite.all_get? _)
    exact ⟨kind, kind.mem_all, e, error_mem_reports.2 ⟨target, htarget, hplan⟩⟩

/-- How a pass ends that loses no race but against blocked targets. -/
theorem CompositeApp.outcome_progress {app : CompositeApp} (before after : Cluster)
    (hvalid : app.validate = .ok ()) (howner : app.controllerReference? ≠ none)
    (hfinite : before.Finite) :
    ((app.progress before after).outcome = .retry ↔ app.BlockedIn before) ∧
      ((∃ n, (app.progress before after).outcome = .converged true n) ↔
        ¬ app.BlockedIn before) := by
  have hretryable : ∀ kind ∈ ChildKind.all, ∀ e, .error e ∈ app.reports before kind →
      e.isRetryable = true := by
    intro kind _ e he
    obtain ⟨target, _, hplan⟩ := error_mem_reports.1 he
    exact (plan_eq_error hvalid howner (hfinite.all_get? _) hplan).2
  obtain ⟨hfailures, hraced⟩ := Progress.foldl_after_of_retryable (p := {}) hretryable
  rw [error_mem_reports_iff_blocked hvalid howner hfinite] at hraced
  have hfailures : (app.progress before after).failures = [] := hfailures
  have hraced : (app.progress before after).raced = true ↔ app.BlockedIn before := by
    rw [progress, hraced]
    simp
  rw [← hraced]
  cases hlost : (app.progress before after).raced <;>
    simp [Progress.outcome, Progress.success, hlost, hfailures]

/-- A pass over a valid live app that can own objects asks to be run again if a target is blocked,
and converges otherwise. In either case all targets are attended to, and nothing else but the app
is another one. -/
theorem World.reconcile_attends {w : World} {app : CompositeApp} {name uid : String}
    (elapsed : Duration) (hcalm : w.store.rules = []) (hkeyed : w.store.cluster.Keyed)
    (hfinite : w.store.cluster.Finite) (hvalid : app.validate = .ok ())
    (hstored : w.store.cluster.get? app.storeKey = some (.app app))
    (hlive : app.metadata.isTerminating = false) (hname : app.metadata.name = some name)
    (huid : app.metadata.uid = some uid) (halone : app.ChildrenAlone w.store.cluster) :
    ((w.reconcile app elapsed).1 = .ok .retry ↔ app.BlockedIn w.store.cluster) ∧
    ((∃ n, (w.reconcile app elapsed).1 = .ok (.converged true n)) ↔
      ¬ app.BlockedIn w.store.cluster) ∧
    (∀ kind, ∀ target ∈ app.targets kind.scope, app.Attended kind target
      (w.store.cluster.get? (app.targetKey kind target))
      ((w.reconcile app elapsed).2.store.cluster.get? (app.targetKey kind target))) ∧
    ∀ key, key ≠ app.storeKey →
      (∀ kind, ∀ target ∈ app.targets kind.scope, key ≠ app.targetKey kind target) →
      (w.reconcile app elapsed).2.store.cluster.get? key = w.store.cluster.get? key := by
  have howner := CompositeApp.controllerReference?_ne_none hname huid
  obtain ⟨after, ⟨p, hp, hresult, hline, -⟩, hstore⟩ := reconcile_of_ends elapsed
    (Pass.reconcile_valid_ends (w := { w with changes := [] }) hcalm hkeyed hvalid hlive hstored
      fun kind _ target _ => halone.deletesAlone kind target)
  obtain ⟨hretry, hconverged⟩ := CompositeApp.outcome_progress w.store.cluster after.store.cluster
    hvalid howner hfinite
  rw [hresult, hstore, hp]
  refine ⟨?_, ?_, ?_, ?_⟩
  · rw [← hretry, Except.ok.injEq]
  · rw [← hconverged]
    simp only [Except.ok.injEq]
  · intro kind target htarget
    exact (hline.brought kind kind.mem_all target htarget).attended hvalid htarget howner
      (fun r hr => Cluster.exists_child_of_get? hkeyed hr) (hfinite.all_get? _)
  · intro key hkey hother
    refine hline.confined.frame key ?_
    intro h
    rcases h with ⟨kind, -, target, htarget, rfl⟩ | hsame
    · exact hother kind target htarget rfl
    · exact hkey hsame

theorem World.reconcile_attends_example :
    Example.shop.validate = .ok () ∧ ¬ Example.shop.BlockedIn Example.world.store.cluster ∧
    ∀ kind, ∀ target ∈ Example.shop.targets kind.scope, Example.shop.Attended kind target
      (Example.world.store.cluster.get? (Example.shop.targetKey kind target))
      ((Example.world.reconcile Example.shop default).2.store.cluster.get?
        (Example.shop.targetKey kind target)) := by
  have hvalid : Example.shop.validate = .ok () := by rfl
  have hfinite : Example.world.store.cluster.Finite :=
    ((Cluster.Finite.empty.put rfl).put rfl).put rfl
  have hconverged : (Example.world.reconcile Example.shop default).1 = .ok (.converged true 6) := by
    rfl
  obtain ⟨-, hends, hattended, -⟩ := World.reconcile_attends default rfl Example.keyed
    hfinite hvalid Example.stored rfl rfl rfl Example.childrenAlone
  exact ⟨hvalid, hends.1 ⟨6, hconverged⟩, hattended⟩

def Example.nameless : CompositeApp :=
  { Example.shop with
    metadata := { Example.shop.metadata with name := none, generateName := some "shop" } }

def Example.namelessWorld : World :=
  { store := { cluster := (Cluster.seed {} (.app Example.nameless)).2 } }

/-- Without a name an app cannot own objects, so that a pass over it fails though nothing stands in
its way. -/
theorem World.reconcile_nameless :
    Example.namelessWorld.store.rules = [] ∧ Example.namelessWorld.store.cluster.Keyed ∧
      Example.nameless.validate = .ok () ∧
      Example.namelessWorld.store.cluster.get? Example.nameless.storeKey =
        some (.app Example.nameless) ∧
      Example.nameless.metadata.isTerminating = false ∧
      Example.nameless.metadata.uid = some "shop-uid" ∧
      Example.nameless.ChildrenAlone Example.namelessWorld.store.cluster ∧
      ¬ Example.nameless.BlockedIn Example.namelessWorld.store.cluster ∧
      (Example.namelessWorld.reconcile Example.nameless default).1 =
        .ok (.converged false 0) := by
  have hempty : ∀ key made,
      Example.namelessWorld.store.cluster.get? key ≠ some (.child made) := by
    intro key made hmade
    rcases Cluster.eq_or_get?_of_put hmade with h | h
    · exact Resource.noConfusion h
    · rw [Cluster.get?_empty] at h
      exact absurd h (by simp)
  refine ⟨rfl, Cluster.Keyed.empty.put _, by rfl, by decide +kernel, rfl, rfl, ?_, ?_, ?_⟩
  · exact fun key made _ hmade => absurd hmade (hempty key made)
  · intro h
    obtain ⟨kind, target, -, seen, -, hseen, -⟩ := h
    exact hempty _ seen hseen
  · with_unfolding_all rfl

end CompositeApps
