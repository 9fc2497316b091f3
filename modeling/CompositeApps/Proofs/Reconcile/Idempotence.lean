import CompositeApps.Proofs.Reconcile.LivePass

/-!
A pass over a live app leaves nothing to be done. If it converges, or rejects the app, then a second
pass over the app as it is stored by then issues no write and ends in the same way.
-/

namespace CompositeApps

theorem Progress.outcome_eq_converged {p : Progress} {n : Nat} :
    p.outcome = .converged true n ↔ p.Clean ∧ p.writes = n := by
  unfold outcome Clean success
  cases p.raced <;> simp

/-- Two progresses without a failure that gathered the same status end in the same status. -/
theorem Progress.finalStatus_of_clean {p q : Progress} {app : CompositeApp} (hp : p.Clean)
    (hq : q.Clean) (hstatus : p.status = q.status) : p.finalStatus app = q.finalStatus app := by
  simp only [finalStatus, message?, success, hp.1, hq.1, hstatus]

/-- A world that is in line with a valid app, where the status of the app says so. -/
structure World.Settled (w : World) (app : CompositeApp) : Prop where
  calm : w.store.rules = []
  keyed : w.store.cluster.Keyed
  valid : app.validate = .ok ()
  registered : FinalizerState.of app = .registered
  stored : w.store.cluster.get? app.storeKey = some (.app app)
  kept : ∀ kind ∈ ChildKind.all, ∀ target ∈ app.targets kind.scope,
    app.plan kind target (w.store.cluster.get? (app.targetKey kind target)) = .ok .keep
  status : ∃ p : Progress, p.Clean ∧ app.status = some (p.finalStatus app) ∧
    p.status = ChildKind.all.foldl (fun status kind => app.observed w.store.cluster kind status) {}

theorem World.Settled.of_store {w w' : World} {app : CompositeApp} (h : w.Settled app)
    (hstore : w'.store = w.store) : w'.Settled app := by
  rcases w' with ⟨_, hookFailure, hookRuns, events, changes, metrics⟩
  obtain rfl := hstore
  exact ⟨h.calm, h.keyed, h.valid, h.registered, h.stored, h.kept, h.status⟩

namespace Pass

variable {w : World} {app : CompositeApp}

theorem reconcile_of_registered (h : FinalizerState.of app = .registered) :
    reconcile app = work app := by
  unfold reconcile
  rw [gate_of_registered h]
  rfl

/-- In a settled world a pass has nothing to do. -/
theorem reconcile_settled_ends (h : w.Settled app) :
    Ends World.handler (reconcile app) w fun result after =>
      result = .ok (.converged true 0) ∧ w.Reaches 0 after := by
  have halone : ∀ kind ∈ ChildKind.all, ∀ target ∈ app.targets kind.scope,
      app.DeletesAlone w.store.cluster kind target := by
    intro kind hkind target htarget hplan
    rw [h.kept kind hkind target htarget] at hplan
    exact absurd hplan (by simp)
  rw [reconcile_of_registered h.registered]
  simp only [work, h.valid]
  refine (bringInLine_ends h.calm h.keyed h.valid h.stored halone).mono ?_
  intro _ after hpost
  obtain ⟨p, hp, rfl, hline, -, n, hreaches, hquiet⟩ := hpost
  have hframe : ∀ key, app.Covers ChildKind.all key →
      after.store.cluster.get? key = w.store.cluster.get? key := by
    intro _ hpost
    obtain ⟨kind, hkind, target, htarget, rfl⟩ := hpost
    have hbrought := hline.brought kind hkind target htarget
    rw [CompositeApp.Brought, h.kept kind hkind target htarget] at hbrought
    generalize after.store.cluster.get? (app.targetKey kind target) = later at hbrought ⊢
    cases hbrought
    rfl
  have hclean : p.Clean := by
    rw [hp]
    refine Progress.clean_foldl_after.2 ⟨⟨rfl, rfl⟩, fun kind hkind e he => ?_⟩
    obtain ⟨target, htarget, hplan⟩ := CompositeApp.error_mem_reports.1 he
    rw [h.kept kind hkind target htarget] at hplan
    exact absurd hplan (by simp)
  have hwrites : p.writes = 0 := by
    rw [hp]
    exact Progress.writes_foldl_after fun kind hkind =>
      CompositeApp.writes_reports_of_keep (h.kept kind hkind)
  have hstatus : p.status =
      ChildKind.all.foldl (fun status kind => app.observed w.store.cluster kind status) {} := by
    rw [hp]
    refine Progress.status_foldl_after.trans ?_
    exact CompositeApp.foldl_observed_congr hframe
  obtain ⟨q, hq, hsame, hqstatus⟩ := h.status
  rw [Progress.finalStatus_of_clean hq hclean (hqstatus.trans hstatus.symm)] at hsame
  refine ⟨congrArg Except.ok (Progress.outcome_eq_converged.2 ⟨hclean, hwrites⟩), ?_⟩
  rwa [hquiet hsame, hwrites] at hreaches

/-- A pass over a valid live app that converges leaves a settled world. -/
theorem reconcile_settles (hcalm : w.store.rules = []) (hkeyed : w.store.cluster.Keyed)
    (hvalid : app.validate = .ok ()) (hlive : app.metadata.isTerminating = false)
    (hstored : w.store.cluster.get? app.storeKey = some (.app app))
    (halone : app.ChildrenAlone w.store.cluster) :
    Ends World.handler (reconcile app) w fun result after =>
      (∃ outcome, result = .ok outcome ∧ ∀ cause, outcome ≠ .rejected cause) ∧
      ∀ n, result = .ok (.converged true n) →
        ∃ app', after.store.cluster.get? app.storeKey = some (.app app') ∧ after.Settled app' := by
  refine (reconcile_valid_ends hcalm hkeyed hvalid hlive hstored
    fun kind _ target _ => halone.deletesAlone kind target).mono ?_
  intro _ after hpost
  obtain ⟨p, hp, rfl, hline, hcalm', app', hstored', hfollows, hregistered, hstatus⟩ := hpost
  refine ⟨⟨p.outcome, rfl, fun cause => ?_⟩, fun n hconverged => ?_⟩
  · unfold Progress.outcome
    split <;> simp
  · have hclean := (Progress.outcome_eq_converged.1 (Except.ok.inj hconverged)).1
    refine ⟨app', hstored', hcalm', hline.confined.keyed hkeyed, ?_, hregistered, ?_, ?_,
      p, hclean, ?_, ?_⟩
    · rw [hfollows.validate_eq, hvalid]
    · rw [hfollows.storeKey_eq, hstored']
    · intro kind hkind target htarget
      rw [hfollows.targets_eq] at htarget
      rw [hfollows.plan_eq, hfollows.targetKey_eq]
      have hbrought := hline.brought kind hkind target htarget
      rw [hp] at hclean
      have hreports := (Progress.clean_foldl_after.1 hclean).2 kind hkind
      unfold CompositeApp.Brought at hbrought
      cases hplan : app.plan kind target (w.store.cluster.get? (app.targetKey kind target)) with
      | error e =>
        have hreported := CompositeApp.error_mem_reports.2 ⟨target, htarget, hplan⟩
        exact absurd hreported (hreports e)
      | ok action =>
        rw [hplan] at hbrought
        exact CompositeApp.plan_of_yields hvalid htarget hplan hbrought
    · rw [hstatus, hfollows.finalStatus_eq]
    · rw [hp, hfollows.observed_eq]
      exact Progress.status_foldl_after

/-- An app whose status tells that it was rejected is rejected again without a write. -/
theorem reconcile_rejected_ends {cause : ValidationError} (hcalm : w.store.rules = [])
    (hvalid : app.validate = .error (.invalid cause))
    (hregistered : FinalizerState.of app = .registered)
    (hstored : w.store.cluster.get? app.storeKey = some (.app app))
    (hstatus : app.status = some (app.rejectedStatus cause)) :
    Ends World.handler (reconcile app) w fun result after =>
      result = .ok (.rejected cause) ∧ w.Reaches 0 after := by
  rw [reconcile_of_registered hregistered]
  simp only [work, hvalid]
  refine (reject_ends hcalm hstored).mono ?_
  intro result after hpost
  obtain ⟨hresult, -, n, hreaches, hquiet⟩ :=
    hpost.resolve_right fun hunread => hunread.1 hstatus
  rw [hquiet hstatus] at hreaches
  exact ⟨hresult, hreaches⟩

end Pass

/-- A second pass over a live app, as it is stored after a first one that converged or rejected it,
issues no write, and ends in the same way without a change. -/
theorem World.reconcile_reconcile {w : World} {app : CompositeApp} (first second : Duration)
    (hcalm : w.store.rules = []) (hkeyed : w.store.cluster.Keyed)
    (hstored : w.store.cluster.get? app.storeKey = some (.app app))
    (hlive : app.metadata.isTerminating = false) (halone : app.ChildrenAlone w.store.cluster)
    (hended : (∃ n, (w.reconcile app first).1 = .ok (.converged true n)) ∨
      ∃ cause, (w.reconcile app first).1 = .ok (.rejected cause)) :
    ∃ app', (w.reconcile app first).2.store.cluster.get? app.storeKey = some (.app app') ∧
      ((w.reconcile app first).2.reconcile app' second).2.store.writes =
        (w.reconcile app first).2.store.writes ∧
      (∀ n, (w.reconcile app first).1 = .ok (.converged true n) →
        ((w.reconcile app first).2.reconcile app' second).1 = .ok (.converged true 0)) ∧
      ∀ cause, (w.reconcile app first).1 = .ok (.rejected cause) →
        ((w.reconcile app first).2.reconcile app' second).1 = .ok (.rejected cause) := by
  have hsucceeds : ¬ ∃ e, (w.reconcile app first).1 = .error e := by
    rintro ⟨e, he⟩
    rcases hended with ⟨n, hconverged⟩ | ⟨cause, hcause⟩
    · exact absurd (he.symm.trans hconverged) (by simp)
    · exact absurd (he.symm.trans hcause) (by simp)
  cases hvalid : app.validate with
  | ok =>
    obtain ⟨after, ⟨⟨outcome, houtcome, haccepted⟩, hsettles⟩, hstore⟩ :=
      reconcile_of_ends first (Pass.reconcile_settles hcalm hkeyed hvalid hlive hstored halone)
    have hnever : ∀ cause, (w.reconcile app first).1 ≠ .ok (.rejected cause) := by
      intro cause hcause
      exact haccepted cause (Except.ok.inj (houtcome.symm.trans hcause))
    rcases hended with ⟨n, hconverged⟩ | ⟨cause, hcause⟩
    · obtain ⟨app', hstored', hsettled⟩ := hsettles n hconverged
      obtain ⟨last, ⟨hresult, hreaches⟩, hlast⟩ :=
        reconcile_of_ends (w := (w.reconcile app first).2) second
          (Pass.reconcile_settled_ends (hsettled.of_store hstore))
      refine ⟨app', by rw [hstore, hstored'], ?_, fun _ _ => hresult, fun cause hcause =>
        absurd hcause (hnever cause)⟩
      rw [hlast]
      exact hreaches.writes_eq
    · exact absurd hcause (hnever cause)
  | error refusal =>
    cases refusal with
    | invalid cause =>
      obtain ⟨after, hpost, hstore⟩ :=
        reconcile_of_ends first (Pass.reconcile_invalid_ends hcalm hvalid hlive hstored)
      obtain ⟨hresult, hcalm', app', hstored', hfollows, hregistered, hstatus⟩ :=
        hpost.resolve_right hsucceeds
      have hvalid' : app'.validate = .error (.invalid cause) := by rw [hfollows.validate_eq, hvalid]
      have hagain := Pass.reconcile_rejected_ends
        (w := { (w.reconcile app first).2 with changes := [] }) (by rw [hstore, hcalm']) hvalid'
        hregistered (by rw [hstore, hfollows.storeKey_eq, hstored']) hstatus
      obtain ⟨last, ⟨hlastResult, hreaches⟩, hlast⟩ := reconcile_of_ends second hagain
      refine ⟨app', by rw [hstore, hstored'], ?_, fun n hconverged => ?_, fun other hother => ?_⟩
      · rw [hlast]
        exact hreaches.writes_eq
      · rw [hresult] at hconverged
        exact absurd (Except.ok.inj hconverged) (by simp)
      · rw [hresult] at hother
        rw [hlastResult, ← hother]
    | aborted cause =>
      exact absurd (reconcile_of_aborted first hcalm hvalid hlive hstored) hsucceeds

/-- In the example two objects are brought in line, one is marked for deletion and four are made; a
second pass then has nothing to do. -/
theorem World.reconcile_reconcile_example :
    (Example.world.reconcile Example.shop default).1 = .ok (.converged true 6) ∧
    ∃ app', (Example.world.reconcile Example.shop default).2.store.cluster.get?
        Example.shop.storeKey = some (.app app') ∧
      ((Example.world.reconcile Example.shop default).2.reconcile app' default).2.store.writes =
        (Example.world.reconcile Example.shop default).2.store.writes ∧
      ((Example.world.reconcile Example.shop default).2.reconcile app' default).1 =
        .ok (.converged true 0) := by
  have hconverged : (Example.world.reconcile Example.shop default).1 = .ok (.converged true 6) := by
    rfl
  obtain ⟨app', hstored, hwrites, hagain, -⟩ := World.reconcile_reconcile default default rfl
    Example.keyed Example.stored rfl Example.childrenAlone (Or.inl ⟨6, hconverged⟩)
  exact ⟨hconverged, app', hstored, hwrites, hagain 6 hconverged⟩

end CompositeApps
