import CompositeApps.Proofs.App.Followed
import CompositeApps.Proofs.Reconcile.LookAfter

/-!
A pass over a live app in a world without faults: how it ends, and what is stored afterwards. The
app itself is written at most twice, and only its finalizers and its status change.
-/

namespace CompositeApps

structure World.Keeps (w : World) (app app' : CompositeApp) (after : World) : Prop where
  stored : after.store.cluster.get? app.storeKey = some (.app app')
  follows : app'.Follows app
  confined : w.store.cluster.Confined app.metadata.uid (· = app.storeKey) after.store.cluster

namespace CompositeApp

def progress (app : CompositeApp) (before after : Cluster) : Progress :=
  ChildKind.all.foldl (Progress.after app before after) {}

/-- The key of the app is none of those of its targets. -/
theorem ne_storeKey_of_covers {app : CompositeApp} {kinds : List ChildKind} {key : ObjectKey}
    (h : app.Covers kinds key) : key ≠ app.storeKey := by
  obtain ⟨kind, -, target, -, rfl⟩ := h
  exact app.targetKey_ne_storeKey app kind target

/-- The app is stored as only the operator has written it since, with its finalizers and with a
status. -/
def StoredWith (app : CompositeApp) (status : AppStatus) (c : Cluster) : Prop :=
  ∃ app', c.get? app.storeKey = some (.app app') ∧ app'.Follows app ∧
    app'.metadata.finalizers = app.metadata.finalizers ∧ app'.status = some status

end CompositeApp

def Progress.outcome (p : Progress) : PassOutcome :=
  if p.raced then .retry else .converged p.success p.writes

/-- A world in which all targets of an app are brought to what it wants, and nothing else but the
app has changed. -/
structure World.InLine (w : World) (app : CompositeApp) (after : World) : Prop where
  confined : w.store.cluster.Confined app.metadata.uid
    (fun key => app.Covers ChildKind.all key ∨ key = app.storeKey) after.store.cluster
  brought : ∀ kind ∈ ChildKind.all, ∀ target ∈ app.targets kind.scope, app.Brought kind target
    (w.store.cluster.get? (app.targetKey kind target))
    (after.store.cluster.get? (app.targetKey kind target))

namespace CompositeApp.Follows

variable {app later : CompositeApp}

theorem covers_eq (h : later.Follows app) : later.Covers = app.Covers := by
  funext kinds key
  simp only [Covers, h.targets_eq, h.targetKey_eq]

theorem brought_eq (h : later.Follows app) : later.Brought = app.Brought := by
  funext kind target before after
  simp only [Brought, h.plan_eq]

theorem deletesAlone_iff (h : later.Follows app) {c : Cluster} {kind : ChildKind}
    {target : Target} : later.DeletesAlone c kind target ↔ app.DeletesAlone c kind target := by
  simp only [DeletesAlone, h.plan_eq, h.targetKey_eq, h.uid_eq]

theorem reports_eq (h : later.Follows app) : later.reports = app.reports := by
  funext c kind
  simp only [reports, report, h.targets_eq, h.targetKey_eq, h.plan_eq]

theorem observed_eq (h : later.Follows app) : later.observed = app.observed := by
  funext c kind status
  simp only [observed, observedOf, h.targets_eq, h.targetKey_eq]

theorem progress_eq (h : later.Follows app) : later.progress = app.progress := by
  funext before after
  have hafter : Progress.after later before after = Progress.after app before after := by
    funext p kind
    simp only [Progress.after, h.reports_eq, h.observed_eq]
  simp only [progress, hafter]

theorem finalStatus_eq (h : later.Follows app) (p : Progress) :
    p.finalStatus later = p.finalStatus app :=
  h.finished_eq _

theorem inLine (h : later.Follows app) {w after : World} (hline : w.InLine later after) :
    w.InLine app after := by
  have hconfined := hline.confined
  have hbrought := hline.brought
  rw [h.uid_eq, h.covers_eq, h.storeKey_eq] at hconfined
  simp only [h.targets_eq, h.targetKey_eq, h.brought_eq] at hbrought
  exact ⟨hconfined, hbrought⟩

end CompositeApp.Follows

namespace World

variable {w after : World} {app app' : CompositeApp}

theorem keeps_refl (hstored : w.store.cluster.get? app.storeKey = some (.app app)) :
    w.Keeps app app w :=
  ⟨hstored, .refl app, .refl _ _ _⟩

theorem keeps_put (hstored : w.store.cluster.get? app.storeKey = some (.app app))
    (hfollows : app'.Follows app)
    (hcluster : after.store.cluster = w.store.cluster.put (.app app')) :
    w.Keeps app app' after := by
  have howners : ∀ uid, app.metadata.uid ≠ some uid → w.store.cluster.Unlisted uid →
      (Resource.app app').isOwnedBy uid = false := by
    intro uid _ hunlisted
    obtain ⟨finalizers, version, status, rfl⟩ := hfollows
    exact hunlisted app.storeKey (.app app) hstored
  have hkey : (Resource.app app').key = app.storeKey := hfollows.storeKey_eq
  refine ⟨?_, hfollows, ?_⟩
  · rw [hcluster, ← hkey, Cluster.get?_put_self]
  · rw [hcluster, ← hkey]
    exact Cluster.Confined.put (.app app') howners

end World

namespace Pass

variable {w : World} {app : CompositeApp}

/-- A call that puts a later copy of the app in its place is answered with it, unless the copy
cannot be read. -/
theorem written_ends {c : Call} {app' : CompositeApp} (hcalm : w.store.rules = [])
    (hstored : w.store.cluster.get? app.storeKey = some (.app app)) (hfollows : app'.Follows app)
    (heffect : w.store.cluster.Effect c (some (.app app')) (w.store.cluster.put (.app app'))) :
    Ends World.handler (perform c) w fun reply after =>
      (reply = .ok (some (.app app')) ∧ w.Keeps app app' after ∧
        w.Reaches (World.writesOf c) after) ∨
      app.spec.isFinite = false ∧ ∃ message, reply = .error (.malformed message) := by
  have hspec : (Resource.app app').isFinite = app.spec.isFinite := by
    rw [Resource.isFinite, hfollows.copyOf.spec_eq]
  refine Ends.answered hcalm heffect.perform_eq fun after hcluster hreaches => ?_
  cases hfinite : app.spec.isFinite with
  | true =>
    have hread : Reply.ofStored (some (.app app')) = .ok (some (.app app')) :=
      Reply.ofStored_eq_ok.2 ⟨rfl, hspec.trans hfinite⟩
    exact Or.inl ⟨hread, World.keeps_put hstored hfollows hcluster, hreaches⟩
  | false =>
    exact Or.inr ⟨rfl, Reply.exists_ofStored_eq_malformed (hspec.trans hfinite)⟩

/-- Writing the status of an app leaves it stored with that status, or fails because the app cannot
be read. -/
theorem writeStatus_ends {status : AppStatus} (hcalm : w.store.rules = [])
    (hstored : w.store.cluster.get? app.storeKey = some (.app app)) :
    Ends World.handler (writeStatus app status) w fun result after =>
      ((result = .ok .unchanged ∨ result = .ok .written) ∧
        w.store.cluster.Confined app.metadata.uid (· = app.storeKey) after.store.cluster ∧
        app.StoredWith status after.store.cluster ∧
        ∃ n, w.Reaches n after ∧ (app.status = some status → n = 0)) ∨
      app.spec.isFinite = false ∧ app.status ≠ some status ∧ ∃ e, result = .error e := by
  unfold writeStatus
  split
  · rename_i hsame
    exact Ends.pure (Or.inl ⟨Or.inl rfl, .refl _ _ _, ⟨app, hstored, .refl app, rfl, hsame⟩, 0,
      .refl hcalm, fun _ => rfl⟩)
  · rename_i hdiffers
    have heffect := Cluster.Effect.reported_of_current
      (r := .app { app with status := some status }) hstored rfl
    refine (written_ends hcalm hstored ⟨_, _, _, rfl⟩ heffect).bind ?_
    rintro _ after (⟨rfl, hkeeps, hreaches⟩ | ⟨hunread, message, rfl⟩)
    · exact Ends.pure (Or.inl ⟨Or.inr rfl, hkeeps.confined,
        ⟨_, hkeeps.stored, hkeeps.follows, rfl, rfl⟩, _, hreaches,
        fun hsame => absurd hsame hdiffers⟩)
    · exact Ends.pure (Or.inr ⟨hunread, hdiffers, _, rfl⟩)

theorem gate_of_registered (h : FinalizerState.of app = .registered) :
    gate app = pure (.ok (.proceed app)) := by
  rw [gate, h]

/-- A live app is let through with the finalizer on it, unless it cannot be read. -/
theorem gate_ends (hcalm : w.store.rules = [])
    (hstored : w.store.cluster.get? app.storeKey = some (.app app))
    (hlive : app.metadata.isTerminating = false) :
    Ends World.handler (gate app) w fun result after =>
      (∃ app', result = .ok (.proceed app') ∧ w.Keeps app app' after ∧
        FinalizerState.of app' = .registered ∧ ∃ n, w.Reaches n after) ∨
      app.spec.isFinite = false ∧ ∃ e, result = .error e := by
  cases hheld : app.metadata.finalizerList.contains finalizer with
  | true =>
    have hstate : FinalizerState.of app = .registered := by
      rw [FinalizerState.of, hheld, hlive]
    rw [gate_of_registered hstate]
    exact Ends.pure (Or.inl ⟨app, rfl, World.keeps_refl hstored, hstate, 0, .refl hcalm⟩)
  | false =>
    have hstate : FinalizerState.of app = .unregistered := by
      rw [FinalizerState.of, hheld, hlive]
    have hgate : gate app = register app := by rw [gate, hstate]
    let app' := app.rewritten (some (app.metadata.finalizerList ++ [finalizer]))
      (some (Cluster.versionText (w.store.cluster.version + 1))) app.status
    have heffect : w.store.cluster.Effect (.replace (.app app.withFinalizer)) (some (.app app'))
        (w.store.cluster.put (.app app')) :=
      .replaced_of_current (r := .app app.withFinalizer) hstored rfl hlive
    have hregistered : FinalizerState.of app' = .registered := by
      have hheld' : app'.metadata.finalizerList.contains finalizer = true := by
        simp [app', CompositeApp.rewritten, ObjectMeta.finalizerList]
      have hlive' : app'.metadata.isTerminating = false := hlive
      rw [FinalizerState.of, hheld', hlive']
    have hpersist : Ends World.handler (persist app.withFinalizer) w fun result after =>
        (result = .ok (some app') ∧ w.Keeps app app' after ∧ ∃ n, w.Reaches n after) ∨
          app.spec.isFinite = false ∧ ∃ e, result = .error e := by
      refine (written_ends hcalm hstored ⟨_, _, _, rfl⟩ heffect).bind ?_
      rintro _ after (⟨rfl, hkeeps, hreaches⟩ | ⟨hunread, message, rfl⟩)
      · exact Ends.pure (Or.inl ⟨rfl, hkeeps, _, hreaches⟩)
      · exact Ends.pure (Or.inr ⟨hunread, _, rfl⟩)
    rw [hgate]
    refine hpersist.bind ?_
    rintro _ after (⟨rfl, hkeeps, hreaches⟩ | ⟨hunread, e, rfl⟩)
    · exact Ends.pure (Or.inl ⟨app', rfl, hkeeps, hregistered, hreaches⟩)
    · exact Ends.pure (Or.inr ⟨hunread, _, rfl⟩)

/-- Looking after everything and reporting it brings the world in line with a valid app. -/
theorem bringInLine_ends (hcalm : w.store.rules = []) (hkeyed : w.store.cluster.Keyed)
    (hvalid : app.validate = .ok ())
    (hstored : w.store.cluster.get? app.storeKey = some (.app app))
    (halone : ∀ kind ∈ ChildKind.all, ∀ target ∈ app.targets kind.scope,
      app.DeletesAlone w.store.cluster kind target) :
    Ends World.handler (bringInLine app) w fun result after =>
      ∃ p, p = app.progress w.store.cluster after.store.cluster ∧ result = .ok p.outcome ∧
        w.InLine app after ∧ app.StoredWith (p.finalStatus app) after.store.cluster ∧
        ∃ n, w.Reaches n after ∧ (app.status = some (p.finalStatus app) → n = p.writes) := by
  have happart : ∀ key, app.Covers ChildKind.all key → key ≠ app.storeKey :=
    fun _ => CompositeApp.ne_storeKey_of_covers
  have hfinite := CompositeApp.isFinite_of_validate hvalid
  unfold bringInLine
  refine (lookAfterAll_ends (p := {}) hcalm hkeyed hvalid (by decide) halone).bind ?_
  intro p mid hpost
  obtain ⟨hp, ⟨n, hwrites, hreaches⟩, hconfined, hbrought⟩ := hpost
  have hmid : mid.store.cluster.get? app.storeKey = some (.app app) := by
    rw [hconfined.frame _ fun hcovers => happart _ hcovers rfl, hstored]
  -- Telling users something does not touch the store.
  have hfinish : ∀ told : World, told.store = mid.store →
      Ends World.handler (do
        return conclude (← writeStatus app (p.finalStatus app)) p.outcome) told
        fun result after =>
          ∃ p, p = app.progress w.store.cluster after.store.cluster ∧ result = .ok p.outcome ∧
            w.InLine app after ∧ app.StoredWith (p.finalStatus app) after.store.cluster ∧
            ∃ n, w.Reaches n after ∧ (app.status = some (p.finalStatus app) → n = p.writes) := by
    intro told htold
    refine (writeStatus_ends (htold ▸ hreaches.calm) (htold ▸ hmid)).bind ?_
    intro write after hpost
    obtain ⟨hwrite, hconfined', hstored', m, hmore, hquiet⟩ :=
      hpost.resolve_right fun hunread => absurd hunread.1 (by simp [hfinite])
    have hframe : ∀ key, app.Covers ChildKind.all key →
        after.store.cluster.get? key = mid.store.cluster.get? key := by
      intro key hkey
      rw [hconfined'.frame key (happart key hkey), htold]
    have hprogress : p = app.progress w.store.cluster after.store.cluster := by
      rw [hp]
      exact Progress.foldl_after_congr (fun _ _ => rfl) fun key hkey => (hframe key hkey).symm
    have hresult : conclude write p.outcome = .ok p.outcome := by
      rcases hwrite with rfl | rfl <;> rfl
    have hwritten : p.writes = n := hwrites.trans (Nat.zero_add n)
    refine Ends.pure ⟨p, hprogress, hresult, ⟨hconfined.trans (htold ▸ hconfined'), ?_⟩, hstored',
      n + m, (hreaches.of_store htold).trans hmore, ?_⟩
    · intro kind hkind target htarget
      rw [hframe _ (.of_mem hkind htarget)]
      exact hbrought kind hkind target htarget
    · intro hsame
      rw [hquiet hsame, hwritten, Nat.add_zero]
  dsimp only
  by_cases hnews : p.isNews = true
  · rw [if_pos hnews]
    exact Ends.bind (Ends.tell (Q := fun _ told => told.store = mid.store) rfl)
      fun _ told htold => hfinish told htold
  · rw [if_neg hnews]
    exact hfinish mid rfl

/-- Rejecting an app whose spec is not valid writes at most the status, unless the app cannot be
read. -/
theorem reject_ends {cause : ValidationError} (hcalm : w.store.rules = [])
    (hstored : w.store.cluster.get? app.storeKey = some (.app app)) :
    Ends World.handler (reject app cause) w fun result after =>
      (result = .ok (.rejected cause) ∧
        app.StoredWith (app.rejectedStatus cause) after.store.cluster ∧
        ∃ n, w.Reaches n after ∧ (app.status = some (app.rejectedStatus cause) → n = 0)) ∨
      app.status ≠ some (app.rejectedStatus cause) ∧ ∃ e, result = .error e := by
  unfold reject
  have htell : Ends World.handler (tell app (.invalidSpec cause.message)) w fun _ told =>
      told.store = w.store := Ends.tell rfl
  refine htell.bind ?_
  intro _ told htold
  refine (writeStatus_ends (htold ▸ hcalm) (htold ▸ hstored)).bind ?_
  intro write after hpost
  rcases hpost with ⟨hwrite, -, hstored', n, hreaches, hquiet⟩ | ⟨-, hdiffers, e, rfl⟩
  · have hresult : conclude write (.rejected cause) = .ok (.rejected cause) := by
      rcases hwrite with rfl | rfl <;> rfl
    exact Ends.pure (Or.inl ⟨hresult, hstored', n, ⟨hreaches.calm, htold ▸ hreaches.issued⟩,
      hquiet⟩)
  · exact Ends.pure (Or.inr ⟨hdiffers, _, rfl⟩)

/-- A pass over a valid live app. -/
theorem reconcile_valid_ends (hcalm : w.store.rules = []) (hkeyed : w.store.cluster.Keyed)
    (hvalid : app.validate = .ok ()) (hlive : app.metadata.isTerminating = false)
    (hstored : w.store.cluster.get? app.storeKey = some (.app app))
    (halone : ∀ kind ∈ ChildKind.all, ∀ target ∈ app.targets kind.scope,
      app.DeletesAlone w.store.cluster kind target) :
    Ends World.handler (reconcile app) w fun result after =>
      ∃ p, p = app.progress w.store.cluster after.store.cluster ∧ result = .ok p.outcome ∧
        w.InLine app after ∧ after.store.rules = [] ∧
        ∃ app', after.store.cluster.get? app.storeKey = some (.app app') ∧ app'.Follows app ∧
          FinalizerState.of app' = .registered ∧ app'.status = some (p.finalStatus app) := by
  have hfinite := CompositeApp.isFinite_of_validate hvalid
  unfold reconcile
  refine (gate_ends hcalm hstored hlive).bind ?_
  intro _ mid hpost
  obtain ⟨app', rfl, hkeeps, hregistered, n, hreaches⟩ :=
    hpost.resolve_right fun hunread => absurd hunread.1 (by simp [hfinite])
  have hfollows := hkeeps.follows
  have hframe : ∀ key, app.Covers ChildKind.all key →
      mid.store.cluster.get? key = w.store.cluster.get? key := fun key hkey =>
    hkeeps.confined.frame key (CompositeApp.ne_storeKey_of_covers hkey)
  have halone' : ∀ kind ∈ ChildKind.all, ∀ target ∈ app'.targets kind.scope,
      app'.DeletesAlone mid.store.cluster kind target := by
    intro kind hkind target htarget
    rw [hfollows.targets_eq] at htarget
    exact hfollows.deletesAlone_iff.2 ((halone kind hkind target htarget).of_confined
      hkeeps.confined (CompositeApp.ne_storeKey_of_covers (.of_mem hkind htarget)))
  have hstored' : mid.store.cluster.get? app'.storeKey = some (.app app') := by
    rw [hfollows.storeKey_eq, hkeeps.stored]
  have hvalid' : app'.validate = .ok () := by rw [hfollows.validate_eq, hvalid]
  simp only [work, hvalid']
  refine (bringInLine_ends hreaches.calm (hkeeps.confined.keyed hkeyed) hvalid' hstored'
    halone').mono ?_
  intro result after hpost
  obtain ⟨p, hp, hresult, hline, hwith, m, hmore, -⟩ := hpost
  rw [hfollows.progress_eq] at hp
  obtain ⟨last, hlast, hlastFollows, hfinalizers, hstatus⟩ := hwith
  rw [hfollows.storeKey_eq] at hlast
  rw [hfollows.finalStatus_eq] at hstatus
  have hline := hfollows.inLine hline
  refine ⟨p, ?_, hresult, ⟨?_, ?_⟩, hmore.calm, last, hlast, hlastFollows.trans hfollows,
    (hlastFollows.state_eq hfinalizers).trans hregistered, hstatus⟩
  · rw [hp]
    exact Progress.foldl_after_congr hframe fun _ _ => rfl
  · refine (hkeeps.confined.trans hline.confined).mono ?_
    intro key hkey
    rcases hkey with rfl | hkey
    · exact Or.inr rfl
    · exact hkey
  · intro kind hkind target htarget
    rw [← hframe _ (.of_mem hkind htarget)]
    exact hline.brought kind hkind target htarget

/-- A pass over a live app whose spec is not valid rejects it, or fails as it cannot be read. -/
theorem reconcile_invalid_ends {cause : ValidationError} (hcalm : w.store.rules = [])
    (hvalid : app.validate = .error (.invalid cause)) (hlive : app.metadata.isTerminating = false)
    (hstored : w.store.cluster.get? app.storeKey = some (.app app)) :
    Ends World.handler (reconcile app) w fun result after =>
      (result = .ok (.rejected cause) ∧ after.store.rules = [] ∧
        ∃ app', after.store.cluster.get? app.storeKey = some (.app app') ∧ app'.Follows app ∧
          FinalizerState.of app' = .registered ∧
          app'.status = some (app'.rejectedStatus cause)) ∨
      ∃ e, result = .error e := by
  unfold reconcile
  refine (gate_ends hcalm hstored hlive).bind ?_
  intro _ mid hpost
  rcases hpost with ⟨app', rfl, hkeeps, hregistered, n, hreaches⟩ | ⟨-, e, rfl⟩
  swap
  · exact Ends.pure (Or.inr ⟨e, rfl⟩)
  have hfollows := hkeeps.follows
  have hstored' : mid.store.cluster.get? app'.storeKey = some (.app app') := by
    rw [hfollows.storeKey_eq, hkeeps.stored]
  have hvalid' : app'.validate = .error (.invalid cause) := by rw [hfollows.validate_eq, hvalid]
  simp only [work, hvalid']
  refine (reject_ends hreaches.calm hstored').mono ?_
  intro result after hpost
  refine hpost.imp ?_ And.right
  rintro ⟨rfl, ⟨last, hlast, hlastFollows, hfinalizers, hstatus⟩, m, hmore, -⟩
  rw [hfollows.storeKey_eq] at hlast
  refine ⟨rfl, hmore.calm, last, hlast, hlastFollows.trans hfollows,
    (hlastFollows.state_eq hfinalizers).trans hregistered, ?_⟩
  obtain ⟨finalizers, version, status, rfl⟩ := hlastFollows
  obtain rfl : status = some (app'.rejectedStatus cause) := hstatus
  rfl

end Pass

/-- The result of a pass and the store that it leaves, from what is known of its run. -/
theorem World.reconcile_of_ends {w : World} {app : CompositeApp} (elapsed : Duration)
    {post : Except PassError PassOutcome → World → Prop}
    (h : Pass.Ends World.handler (Pass.reconcile app) { w with changes := [] } post) :
    ∃ after, post (w.reconcile app elapsed).1 after ∧
      (w.reconcile app elapsed).2.store = after.store := by
  obtain ⟨result, after, hrun, hpost⟩ := h
  have hreconcile : w.reconcile app elapsed =
      (result, { after with metrics := after.metrics.recordPass (passLabel result) elapsed }) := by
    simp only [reconcile, run, hrun, PassError.ofAbort]
  rw [hreconcile]
  exact ⟨after, hpost, rfl⟩

/-- Where the check of the spec aborts, the pass fails. -/
theorem World.reconcile_of_aborted {w : World} {app : CompositeApp} {cause : Abort}
    (elapsed : Duration) (hcalm : w.store.rules = [])
    (hvalid : app.validate = .error (.aborted cause)) (hlive : app.metadata.isTerminating = false)
    (hstored : w.store.cluster.get? app.storeKey = some (.app app)) :
    ∃ e, (w.reconcile app elapsed).1 = .error e := by
  obtain ⟨_, mid, hrun, hgate⟩ :=
    Pass.gate_ends (w := { w with changes := [] }) hcalm hstored hlive
  simp only [reconcile, run, Pass.reconcile, Pass.run_bind, hrun]
  rcases hgate with ⟨app', rfl, hkeeps, -⟩ | ⟨-, e, rfl⟩
  · have hvalid' : app'.validate = .error (.aborted cause) := by
      rw [hkeeps.follows.validate_eq, hvalid]
    simp only [Pass.work, hvalid']
    exact ⟨_, rfl⟩
  · exact ⟨_, rfl⟩

/-- Deleting an object that is made for an app takes nothing with it: no stored object lists its uid
among its owners, and the app does not share it. -/
def CompositeApp.ChildrenAlone (app : CompositeApp) (c : Cluster) : Prop :=
  ∀ key made uid, c.get? key = some (.child made) → made.metadata.uid = some uid →
    app.metadata.uid ≠ some uid ∧ c.Unlisted uid

theorem CompositeApp.childrenAlone_iff {app : CompositeApp} {c : Cluster} :
    app.ChildrenAlone c ↔ ∀ entry ∈ c.objects.toList, ∀ made ∈ entry.2.child?,
      ∀ uid ∈ made.metadata.uid, app.metadata.uid ≠ some uid ∧ c.Unlisted uid := by
  rw [← Cluster.forall_get?_iff (p := fun _ r => ∀ made ∈ r.child?,
    ∀ uid ∈ made.metadata.uid, app.metadata.uid ≠ some uid ∧ c.Unlisted uid)]
  constructor
  · intro h key r hr made hmade uid huid
    obtain rfl := Resource.child?_eq_some.1 hmade
    exact h key made uid hr huid
  · intro h key made uid hmade huid
    exact h key _ hmade made rfl uid huid

instance (app : CompositeApp) (c : Cluster) : Decidable (app.ChildrenAlone c) :=
  decidable_of_iff' _ CompositeApp.childrenAlone_iff

theorem CompositeApp.ChildrenAlone.deletesAlone {app : CompositeApp} {c : Cluster}
    (h : app.ChildrenAlone c) (kind : ChildKind) (target : Target) :
    app.DeletesAlone c kind target := by
  intro hplan
  cases verdict_of_plan hplan with
  | obsolete seen _ hseen _ =>
    obtain ⟨stored, hstored, hchild⟩ := Option.bind_eq_some_iff.1 hseen
    obtain rfl := Resource.child?_eq_some.1 hchild
    refine ⟨fun r uid hr huid => ?_, fun r uid hr huid => ?_⟩
    · obtain rfl := Option.some.inj (hr.symm.trans hstored)
      exact (h _ seen uid hstored huid).2
    · obtain rfl := Option.some.inj (hr.symm.trans hstored)
      exact (h _ seen uid hstored huid).1

namespace Example

def shop : CompositeApp :=
  { metadata := {
      name := some "shop", namespaceName := some "default", uid := some "shop-uid"
      resourceVersion := some "1" }
    spec := { apps := [
      { version := "v1", image := "shop:1", minReplicas := 1, maxReplicas := 3, port := 8080 },
      { version := "v2", image := "shop:2", minReplicas := -1, maxReplicas := 3, port := 8080 }] } }

def leftover : Deployment :=
  { metadata := {
      name := some "shop-v2", namespaceName := some "default", uid := some "leftover-uid"
      finalizers := some ["example.com/drain"] } }

def stray : Service :=
  { metadata := { name := some "shop", namespaceName := some "default", uid := some "stray-uid" } }

def cluster : Cluster :=
  (((({} : Cluster).seed (.app shop)).2.seed (.child (.deployment leftover))).2.seed
    (.child (.service stray))).2

def world : World :=
  { store := { cluster } }

def shopHeldBy (finalizers : Option (List String)) : CompositeApp :=
  { shop with metadata := { shop.metadata with finalizers } }

def worldHeldBy (finalizers : Option (List String)) : World :=
  { store := { cluster := (((({} : Cluster).seed (.app (shopHeldBy finalizers))).2.seed
      (.child (.deployment leftover))).2.seed (.child (.service stray))).2 } }

theorem keyed_heldBy (finalizers : Option (List String)) :
    (worldHeldBy finalizers).store.cluster.Keyed :=
  ((Cluster.Keyed.empty.put _).put _).put _

theorem childrenAlone_heldBy (finalizers : Option (List String)) :
    (shopHeldBy finalizers).ChildrenAlone (worldHeldBy finalizers).store.cluster := by
  intro key made uid hmade huid
  have hunlisted : (worldHeldBy finalizers).store.cluster.Unlisted uid :=
    ((Cluster.Unlisted.empty.put rfl).put rfl).put rfl
  refine ⟨?_, hunlisted⟩
  intro hshop
  obtain rfl : "shop-uid" = uid := Option.some.inj hshop
  rcases Cluster.eq_or_get?_of_put hmade with h | hmade
  · obtain rfl := Resource.child.inj h
    have hstray : some "stray-uid" = some "shop-uid" := huid
    exact absurd hstray (by decide)
  rcases Cluster.eq_or_get?_of_put hmade with h | hmade
  · obtain rfl := Resource.child.inj h
    have hleftover : some "leftover-uid" = some "shop-uid" := huid
    exact absurd hleftover (by decide)
  rcases Cluster.eq_or_get?_of_put hmade with h | hmade
  · exact Resource.noConfusion h
  · rw [Cluster.get?_empty] at hmade
    exact absurd hmade (by simp)

theorem keyed : world.store.cluster.Keyed :=
  keyed_heldBy none

theorem stored : world.store.cluster.get? shop.storeKey = some (.app shop) := by
  decide +kernel

theorem childrenAlone : shop.ChildrenAlone world.store.cluster :=
  childrenAlone_heldBy none

end Example

end CompositeApps
