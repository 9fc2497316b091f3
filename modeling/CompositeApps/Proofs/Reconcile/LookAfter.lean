import CompositeApps.Proofs.Reconcile.Converge
import CompositeApps.Reconcile.Reconciler

/-!
What a pass has found out once it has looked after all kinds, as a function of the cluster before
and the cluster after: the changes and the failures follow from the plans for what was stored
before, the status from what is stored afterwards.
-/

namespace CompositeApps

theorem ChildKind.mem_all (kind : ChildKind) : kind ∈ ChildKind.all := by
  cases kind <;> decide

namespace ApplyError

theorem mem_failures {results : List (Except ApplyError Change)} {e : ApplyError} :
    e ∈ failures results ↔ .error e ∈ results := by
  simp only [failures, List.mem_filterMap]
  constructor
  · intro h
    obtain ⟨result, hresult, h⟩ := h
    split at h
    · rwa [← Option.some.inj h]
    · exact absurd h (by simp)
  · exact fun h => ⟨_, h, rfl⟩

theorem mem_of_chief? {results : List (Except ApplyError Change)} {e : ApplyError}
    (h : chief? results = some e) : .error e ∈ results := by
  rcases Option.or_eq_some_iff.1 h with hfind | ⟨-, hhead⟩
  · exact mem_failures.1 (List.mem_of_find?_eq_some hfind)
  · exact mem_failures.1 (List.mem_of_head? hhead)

theorem chief?_eq_none {results : List (Except ApplyError Change)} :
    chief? results = none ↔ ∀ e, .error e ∉ results := by
  refine ⟨fun h e he => ?_, fun h => ?_⟩
  · have hnil : failures results = [] := List.head?_eq_none_iff.1 (Option.or_eq_none_iff.1 h).2
    have hmem := mem_failures.2 he
    rw [hnil] at hmem
    exact absurd hmem (by simp)
  · cases hchief : chief? results with
    | none => rfl
    | some e => exact absurd (mem_of_chief? hchief) (h e)

end ApplyError

namespace Progress

def settled (p : Progress) (results : List (Except ApplyError Change)) : Progress :=
  let p := { p with changes := p.changes ++ Change.ofResults results }
  match ApplyError.chief? results with
  | none => p
  | some e => if e.isRetryable then { p with raced := true } else p.failed e

theorem status_settled (p : Progress) (results : List (Except ApplyError Change)) :
    (p.settled results).status = p.status := by
  unfold settled
  dsimp only
  split
  · rfl
  · split <;> rfl

theorem changes_settled (p : Progress) (results : List (Except ApplyError Change)) :
    (p.settled results).changes = p.changes ++ Change.ofResults results := by
  unfold settled
  dsimp only
  split
  · rfl
  · split <;> rfl

def Clean (p : Progress) : Prop :=
  p.failures = [] ∧ p.raced = false

theorem clean_settled {p : Progress} {results : List (Except ApplyError Change)} :
    (p.settled results).Clean ↔ p.Clean ∧ ∀ e, .error e ∉ results := by
  unfold settled Clean
  dsimp only
  cases hchief : ApplyError.chief? results with
  | none =>
    have hnone := ApplyError.chief?_eq_none.1 hchief
    simp only
    exact ⟨fun h => ⟨h, hnone⟩, fun h => h.1⟩
  | some e =>
    have hmem := ApplyError.mem_of_chief? hchief
    refine ⟨fun h => ?_, fun h => absurd hmem (h.2 e)⟩
    by_cases hretryable : e.isRetryable = true
    · simp [hretryable] at h
    · simp [hretryable, failed] at h

/-- Where all that fails is a lost race, nothing counts as failed. -/
theorem settled_of_retryable {p : Progress} {results : List (Except ApplyError Change)}
    (h : ∀ e, .error e ∈ results → e.isRetryable = true) :
    (p.settled results).failures = p.failures ∧
      ((p.settled results).raced = true ↔ p.raced = true ∨ ∃ e, .error e ∈ results) := by
  unfold settled
  dsimp only
  cases hchief : ApplyError.chief? results with
  | none =>
    have hnone := ApplyError.chief?_eq_none.1 hchief
    simp [hnone]
  | some e =>
    have hmem := ApplyError.mem_of_chief? hchief
    simp only [h e hmem, if_true, true_iff]
    exact ⟨trivial, Or.inr ⟨e, hmem⟩⟩

end Progress

namespace CompositeApp

variable (app : CompositeApp)

def reports (c : Cluster) (kind : ChildKind) : List (Except ApplyError Change) :=
  (app.targets kind.scope).map fun target =>
    app.report kind target (c.get? (app.targetKey kind target))

def observedOf (c : Cluster) (kind : ChildKind) (targets : List Target) (status : AppStatus) :
    AppStatus :=
  targets.foldl
    (fun status target =>
      status.observe target.entry ((c.get? (app.targetKey kind target)).bind (·.child?)))
    status

def observed (c : Cluster) (kind : ChildKind) (status : AppStatus) : AppStatus :=
  if kind.observes then app.observedOf c kind (app.targets kind.scope) status else status

def Covers (kinds : List ChildKind) (key : ObjectKey) : Prop :=
  ∃ kind ∈ kinds, ∃ target ∈ app.targets kind.scope, key = app.targetKey kind target

variable {app} {c c' : Cluster} {kind : ChildKind}

theorem Covers.of_mem {kinds : List ChildKind} {target : Target} (hkind : kind ∈ kinds)
    (htarget : target ∈ app.targets kind.scope) : app.Covers kinds (app.targetKey kind target) :=
  ⟨kind, hkind, target, htarget, rfl⟩

theorem Covers.mono {kinds more : List ChildKind} {key : ObjectKey} (h : app.Covers kinds key)
    (hsubset : kinds ⊆ more) : app.Covers more key := by
  obtain ⟨kind, hkind, target, htarget, rfl⟩ := h
  exact .of_mem (hsubset hkind) htarget

theorem error_mem_reports {e : ApplyError} :
    .error e ∈ app.reports c kind ↔ ∃ target ∈ app.targets kind.scope,
      app.plan kind target (c.get? (app.targetKey kind target)) = .error e := by
  simp only [reports, List.mem_map]
  refine exists_congr fun target => and_congr_right fun _ => ?_
  rw [report]
  cases app.plan kind target (c.get? (app.targetKey kind target)) <;>
    simp [Functor.map, Except.map]

/-- Where nothing is to be done, no write is reported. -/
theorem writes_reports_of_keep (h : ∀ target ∈ app.targets kind.scope,
    app.plan kind target (c.get? (app.targetKey kind target)) = .ok .keep) :
    Change.writes (Change.ofResults (app.reports c kind)) = 0 := by
  have hreports : app.reports c kind = (app.targets kind.scope).map fun target =>
      .ok ⟨kind.name, target.name, .unchanged⟩ :=
    List.map_congr_left fun target htarget => by
      rw [report, h target htarget]
      rfl
  have hnone : (Change.ofResults (app.reports c kind)).filter Change.isWrite = [] := by
    refine List.filter_eq_nil_iff.2 fun change hchange => ?_
    obtain ⟨result, hresult, hok⟩ := List.mem_filterMap.1 hchange
    rw [hreports] at hresult
    obtain ⟨target, -, rfl⟩ := List.mem_map.1 hresult
    obtain rfl := Option.some.inj hok
    simp [Change.isWrite, ChangeOutcome.isWrite]
  rw [Change.writes, hnone]
  rfl

theorem reports_congr (h : ∀ target ∈ app.targets kind.scope,
    c.get? (app.targetKey kind target) = c'.get? (app.targetKey kind target)) :
    app.reports c kind = app.reports c' kind :=
  List.map_congr_left fun target htarget => by rw [h target htarget]

theorem observedOf_congr {targets : List Target} {status : AppStatus}
    (h : ∀ target ∈ targets,
      c.get? (app.targetKey kind target) = c'.get? (app.targetKey kind target)) :
    app.observedOf c kind targets status = app.observedOf c' kind targets status := by
  induction targets generalizing status with
  | nil => rfl
  | cons target rest ih =>
    simp only [observedOf, List.foldl_cons, h target List.mem_cons_self]
    exact ih fun other hother => h other (List.mem_cons_of_mem _ hother)

theorem observed_congr {status : AppStatus} (h : ∀ target ∈ app.targets kind.scope,
    c.get? (app.targetKey kind target) = c'.get? (app.targetKey kind target)) :
    app.observed c kind status = app.observed c' kind status := by
  unfold observed
  rw [observedOf_congr h]

theorem foldl_observed_congr {kinds : List ChildKind} {status : AppStatus}
    (h : ∀ key, app.Covers kinds key → c.get? key = c'.get? key) :
    kinds.foldl (fun status kind => app.observed c kind status) status =
      kinds.foldl (fun status kind => app.observed c' kind status) status := by
  induction kinds generalizing status with
  | nil => rfl
  | cons kind rest ih =>
    have hhead : app.observed c kind status = app.observed c' kind status :=
      observed_congr fun target htarget => h _ (.of_mem List.mem_cons_self htarget)
    rw [List.foldl_cons, List.foldl_cons, hhead]
    exact ih fun key hkey => h key (hkey.mono (List.subset_cons_self kind rest))

end CompositeApp

namespace Progress

def after (app : CompositeApp) (before after : Cluster) (p : Progress) (kind : ChildKind) :
    Progress :=
  { p.settled (app.reports before kind) with status := app.observed after kind p.status }

theorem writes_after (app : CompositeApp) (c c' : Cluster) (p : Progress) (kind : ChildKind) :
    (p.after app c c' kind).writes =
      p.writes + Change.writes (Change.ofResults (app.reports c kind)) := by
  simp only [writes, after, changes_settled, Change.writes_append]

/-- The progress depends on nothing but the objects of the targets. -/
theorem foldl_after_congr {app : CompositeApp} {before before' last last' : Cluster}
    {kinds : List ChildKind} {p : Progress}
    (hbefore : ∀ key, app.Covers kinds key → before.get? key = before'.get? key)
    (hlast : ∀ key, app.Covers kinds key → last.get? key = last'.get? key) :
    kinds.foldl (after app before last) p = kinds.foldl (after app before' last') p := by
  induction kinds generalizing p with
  | nil => rfl
  | cons kind rest ih =>
    have hhead : ∀ target ∈ app.targets kind.scope,
        app.Covers (kind :: rest) (app.targetKey kind target) :=
      fun target htarget => .of_mem List.mem_cons_self htarget
    have hrest : ∀ key, app.Covers rest key → app.Covers (kind :: rest) key :=
      fun key hkey => hkey.mono (List.subset_cons_self kind rest)
    have hreports : app.reports before kind = app.reports before' kind :=
      CompositeApp.reports_congr fun target htarget => hbefore _ (hhead target htarget)
    have hobserved : app.observed last kind p.status = app.observed last' kind p.status :=
      CompositeApp.observed_congr fun target htarget => hlast _ (hhead target htarget)
    simp only [List.foldl_cons, after, hreports, hobserved]
    exact ih (fun key hkey => hbefore key (hrest key hkey)) fun key hkey =>
      hlast key (hrest key hkey)

theorem clean_foldl_after {app : CompositeApp} {before last : Cluster} {kinds : List ChildKind}
    {p : Progress} :
    (kinds.foldl (after app before last) p).Clean ↔
      p.Clean ∧ ∀ kind ∈ kinds, ∀ e, .error e ∉ app.reports before kind := by
  induction kinds generalizing p with
  | nil => simp
  | cons kind rest ih =>
    have hkind : (p.after app before last kind).Clean ↔
        p.Clean ∧ ∀ e, .error e ∉ app.reports before kind := clean_settled
    rw [List.foldl_cons, ih, hkind, List.forall_mem_cons, and_assoc]

theorem status_foldl_after {app : CompositeApp} {before last : Cluster} {kinds : List ChildKind}
    {p : Progress} :
    (kinds.foldl (after app before last) p).status =
      kinds.foldl (fun status kind => app.observed last kind status) p.status := by
  induction kinds generalizing p with
  | nil => rfl
  | cons kind rest ih => exact ih

/-- Where nothing is reported but what is as it should be, nothing is written. -/
theorem writes_foldl_after {app : CompositeApp} {before last : Cluster} {kinds : List ChildKind}
    {p : Progress}
    (h : ∀ kind ∈ kinds, Change.writes (Change.ofResults (app.reports before kind)) = 0) :
    (kinds.foldl (after app before last) p).writes = p.writes := by
  induction kinds generalizing p with
  | nil => rfl
  | cons kind rest ih =>
    rw [List.foldl_cons, ih fun other hother => h other (List.mem_cons_of_mem _ hother),
      writes_after, h kind List.mem_cons_self, Nat.add_zero]

/-- Where all that fails is a lost race, the progress says whether one was lost. -/
theorem foldl_after_of_retryable {app : CompositeApp} {before last : Cluster}
    {kinds : List ChildKind} {p : Progress}
    (h : ∀ kind ∈ kinds, ∀ e, .error e ∈ app.reports before kind → e.isRetryable = true) :
    (kinds.foldl (after app before last) p).failures = p.failures ∧
      ((kinds.foldl (after app before last) p).raced = true ↔
        p.raced = true ∨ ∃ kind ∈ kinds, ∃ e, .error e ∈ app.reports before kind) := by
  induction kinds generalizing p with
  | nil => simp
  | cons kind rest ih =>
    obtain ⟨hfailures, hraced⟩ := settled_of_retryable (p := p) (h kind List.mem_cons_self)
    obtain ⟨hrestFailures, hrestRaced⟩ := ih (p := p.after app before last kind)
      fun other hother => h other (List.mem_cons_of_mem _ hother)
    refine ⟨hrestFailures.trans hfailures, hrestRaced.trans ?_⟩
    rw [show (p.after app before last kind).raced = (p.settled (app.reports before kind)).raced
      from rfl, hraced]
    simp only [List.mem_cons, exists_eq_or_imp, or_assoc]

end Progress

namespace Pass

variable {w : World} {app : CompositeApp}

theorem settleKind_ends (p : Progress) (results : List (Except ApplyError Change)) :
    Ends World.handler (settleKind app p results) w fun p' after =>
      p' = p.settled results ∧ after.store = w.store := by
  unfold settleKind Progress.settled
  cases ApplyError.chief? results with
  | none => exact Ends.pure ⟨rfl, rfl⟩
  | some e =>
    by_cases hretryable : e.isRetryable = true
    · simp only [hretryable, if_true]
      exact Ends.pure ⟨rfl, rfl⟩
    · simp only [hretryable]
      exact Ends.bind (Ends.tell (Q := fun _ after => after.store = w.store) rfl)
        fun _ after hafter => Ends.pure ⟨rfl, hafter⟩

theorem observeAll_ends {kind : ChildKind} {targets : List Target} {status : AppStatus}
    (hcalm : w.store.rules = []) (hkeyed : w.store.cluster.Keyed)
    (hobserves : kind.observes = true) :
    Ends World.handler (observeAll app kind status targets) w fun result after =>
      result = (app.observedOf w.store.cluster kind targets status, none) ∧
        w.Reaches 0 after ∧ after.store.cluster = w.store.cluster := by
  induction targets generalizing w status with
  | nil => exact Ends.pure ⟨rfl, World.Reaches.refl hcalm, rfl⟩
  | cons target rest ih =>
    refine (lookup_ends hcalm (app.targetKey kind target)).bind ?_
    intro _ mid hpost
    obtain ⟨rfl, hreaches, hcluster⟩ := hpost
    rw [Cluster.get_of_observes app target hkeyed hobserves]
    refine (ih hreaches.calm (hcluster ▸ hkeyed)).mono ?_
    intro _ after hpost
    obtain ⟨rfl, hmore, hsame⟩ := hpost
    refine ⟨?_, by simpa only [Nat.add_zero] using hreaches.trans hmore, hsame.trans hcluster⟩
    rw [hcluster]
    rfl

theorem updateStatus_ends {kind : ChildKind} {status : AppStatus} (hcalm : w.store.rules = [])
    (hkeyed : w.store.cluster.Keyed) :
    Ends World.handler (updateStatus app kind status) w fun result after =>
      result = (app.observed w.store.cluster kind status, none) ∧
        w.Reaches 0 after ∧ after.store.cluster = w.store.cluster := by
  unfold updateStatus CompositeApp.observed
  split
  · rename_i hobserves
    exact observeAll_ends hcalm hkeyed hobserves
  · exact Ends.pure ⟨rfl, World.Reaches.refl hcalm, rfl⟩

/-- Looking after a kind brings its targets to what the app wants, and touches nothing else. -/
theorem lookAfter_ends {p : Progress} {kind : ChildKind} (hcalm : w.store.rules = [])
    (hkeyed : w.store.cluster.Keyed) (hvalid : app.validate = .ok ())
    (halone : ∀ target ∈ app.targets kind.scope, app.DeletesAlone w.store.cluster kind target) :
    Ends World.handler (lookAfter app p kind) w fun p' after =>
      p' = p.after app w.store.cluster after.store.cluster kind ∧
      w.Reaches (Change.writes (Change.ofResults (app.reports w.store.cluster kind))) after ∧
      w.store.cluster.Confined app.metadata.uid (app.Covers [kind]) after.store.cluster ∧
      ∀ target ∈ app.targets kind.scope, app.Brought kind target
        (w.store.cluster.get? (app.targetKey kind target))
        (after.store.cluster.get? (app.targetKey kind target)) := by
  unfold lookAfter apply
  refine (convergeAll_ends hcalm hkeyed hvalid (fun _ => id)
    (CompositeApp.targets_nodup hvalid kind.scope) halone).bind ?_
  intro results converged hpost
  obtain ⟨rfl, hreaches, hconfined, hbrought⟩ := hpost
  refine (settleKind_ends p _).bind ?_
  intro _ settled hpost
  obtain ⟨rfl, hstore⟩ := hpost
  have hcalm := hreaches.of_store hstore
  have hsettled : settled.store.cluster.Keyed := by
    rw [hstore]
    exact hconfined.keyed hkeyed
  refine (updateStatus_ends hcalm.calm hsettled).bind ?_
  intro _ last hpost
  obtain ⟨rfl, hobserve, hcluster⟩ := hpost
  have hlast : last.store.cluster = converged.store.cluster := by rw [hcluster, hstore]
  refine Ends.pure ⟨?_, ?_, ?_, ?_⟩
  · rw [hlast, hstore, Progress.status_settled]
    rfl
  · exact hcalm.trans hobserve
  · rw [hlast]
    refine hconfined.mono ?_
    intro key hkey
    obtain ⟨target, htarget, rfl⟩ := hkey
    exact .of_mem (List.mem_singleton_self kind) htarget
  · rw [hlast]
    exact hbrought

/-- Looking after several kinds brings all their targets to what the app wants: the kinds do not
disturb each other. -/
theorem lookAfterAll_ends {p : Progress} {kinds : List ChildKind} (hcalm : w.store.rules = [])
    (hkeyed : w.store.cluster.Keyed) (hvalid : app.validate = .ok ()) (hnodup : kinds.Nodup)
    (halone : ∀ kind ∈ kinds, ∀ target ∈ app.targets kind.scope,
      app.DeletesAlone w.store.cluster kind target) :
    Ends World.handler (lookAfterAll app p kinds) w fun p' after =>
      p' = kinds.foldl (Progress.after app w.store.cluster after.store.cluster) p ∧
      (∃ n, p'.writes = p.writes + n ∧ w.Reaches n after) ∧
      w.store.cluster.Confined app.metadata.uid (app.Covers kinds) after.store.cluster ∧
      ∀ kind ∈ kinds, ∀ target ∈ app.targets kind.scope, app.Brought kind target
        (w.store.cluster.get? (app.targetKey kind target))
        (after.store.cluster.get? (app.targetKey kind target)) := by
  induction kinds generalizing w p with
  | nil =>
    refine Ends.pure ⟨rfl, ⟨0, rfl, World.Reaches.refl hcalm⟩, ?_, by simp⟩
    exact Cluster.Confined.refl _ _ _
  | cons kind rest ih =>
    obtain ⟨hfresh, hrest⟩ := List.nodup_cons.1 hnodup
    have happart : ∀ key, app.Covers rest key → ¬ app.Covers [kind] key := by
      rintro _ ⟨other, hother, _, -, rfl⟩ ⟨same, hsame, _, -, hkey⟩
      obtain rfl := List.mem_singleton.1 hsame
      obtain rfl := Kind.child.inj (congrArg ObjectKey.kind hkey)
      exact hfresh hother
    refine (lookAfter_ends (p := p) hcalm hkeyed hvalid
      (halone kind List.mem_cons_self)).bind ?_
    intro _ mid hpost
    obtain ⟨rfl, hreaches, hconfined, hbrought⟩ := hpost
    have hframe : ∀ key, app.Covers rest key →
        mid.store.cluster.get? key = w.store.cluster.get? key :=
      fun key hkey => hconfined.frame key (happart key hkey)
    refine (ih hreaches.calm (hconfined.keyed hkeyed) hrest
      fun other hother target htarget =>
        (halone other (List.mem_cons_of_mem _ hother) target htarget).of_confined hconfined
          (happart _ (.of_mem hother htarget))).mono ?_
    intro p' after hpost
    obtain ⟨hp', ⟨n, hwrites, hmore⟩, hconfined', hbrought'⟩ := hpost
    have hlater : ∀ target ∈ app.targets kind.scope,
        mid.store.cluster.get? (app.targetKey kind target) =
          after.store.cluster.get? (app.targetKey kind target) := by
      intro target htarget
      refine (hconfined'.frame _ fun hrest => happart _ hrest ?_).symm
      exact .of_mem (List.mem_singleton_self kind) htarget
    refine ⟨?_, ?_, ?_, ?_⟩
    · rw [hp', List.foldl_cons, Progress.foldl_after_congr hframe fun _ _ => rfl]
      simp only [Progress.after, CompositeApp.observed_congr hlater]
    · refine ⟨_, ?_, hreaches.trans hmore⟩
      rw [hwrites, Progress.writes_after, Nat.add_assoc]
    · refine (hconfined.trans hconfined').mono fun key hkey => ?_
      rcases hkey with hhead | hrest
      · exact hhead.mono (List.cons_subset_cons kind (List.nil_subset rest))
      · exact hrest.mono (List.subset_cons_self kind rest)
    · intro other hother target htarget
      rcases List.mem_cons.1 hother with rfl | hother
      · rw [← hlater target htarget]
        exact hbrought target htarget
      · rw [← hframe _ (.of_mem hother htarget)]
        exact hbrought' other hother target htarget

end Pass

end CompositeApps
