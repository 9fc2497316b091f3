import CompositeApps.Proofs.Reconcile.Aborts
import CompositeApps.Proofs.Reconcile.LivePass

/-!
What a pass meets on its way through the kinds of objects: the result at each target, and the
answers to the lookups for the status. What the pass has found out in the end follows from that, and
so does how many writes it has made.
-/

namespace CompositeApps

def ApplyError.hard? (results : List (Except ApplyError Change)) : Option ApplyError :=
  (chief? results).filter (!·.isRetryable)

/-- What the work on a kind came to: the result at each target in order, and the error of the lookup
for the status that failed, if one did. -/
structure KindReport where
  kind : ChildKind
  results : List (Except ApplyError Change)
  unseen : Option ApplyError

namespace KindReport

def failures (r : KindReport) : List ApplyError :=
  (ApplyError.hard? r.results).toList ++ r.unseen.toList

def raced (r : KindReport) : Bool :=
  (ApplyError.chief? r.results).any (·.isRetryable)

def changes (r : KindReport) : List Change :=
  Change.ofResults r.results

theorem failures_eq_nil {r : KindReport} : r.failures = [] ↔
    (∀ e, ApplyError.chief? r.results = some e → e.isRetryable = true) ∧ r.unseen = none := by
  simp [failures, ApplyError.hard?]

theorem raced_iff {r : KindReport} :
    r.raced = true ↔ ∃ e, ApplyError.chief? r.results = some e ∧ e.isRetryable = true :=
  Option.any_eq_true _ _

end KindReport

namespace CompositeApp

def watched (app : CompositeApp) (kind : ChildKind) : List Target :=
  if kind.observes then app.targets kind.scope else []

end CompositeApp

def Handler.warn {σ : Type} (h : Handler σ) (app : CompositeApp) (event : String → Event)
    (error : Option ApplyError) (s : σ) : σ :=
  match error with
  | none => s
  | some e => h.publish app (event e.message) s

def Handler.announce {σ : Type} (h : Handler σ) (app : CompositeApp) (p : Progress) (s : σ) : σ :=
  if p.isNews then h.publish app (.reconciled (Change.summary p.changes)) s else s

section Surveys

variable {σ α τ : Type}

inductive InTurn (h : Handler σ) (f : τ → Pass α) : List τ → σ → List α → σ → Prop where
  | nil (s : σ) : InTurn h f [] s [] s
  | cons {t : τ} {ts : List τ} {s mid after : σ} {a : α} {as : List α}
      (hrun : (f t).run h s = (.ok a, mid)) (hrest : InTurn h f ts mid as after) :
      InTurn h f (t :: ts) s (a :: as) after

/-- Targets are looked up for the status one after the other, up to the first lookup that fails. -/
inductive Observes (h : Handler σ) (app : CompositeApp) (kind : ChildKind) :
    List Target → AppStatus → σ → AppStatus → Option ApplyError → σ → Prop where
  | done (status : AppStatus) (s : σ) : Observes h app kind [] status s status none s
  | failed {target : Target} {rest : List Target} {status : AppStatus} {s after : σ}
      {e : StoreError}
      (hlookup : (Pass.lookup (app.targetKey kind target)).run h s = (.ok (.error e), after)) :
      Observes h app kind (target :: rest) status s status
        (some (.store kind.name target.name e)) after
  | seen {target : Target} {rest : List Target} {status status' : AppStatus} {s mid after : σ}
      {observed : Option Child} {unseen : Option ApplyError}
      (hlookup : (Pass.lookup (app.targetKey kind target)).run h s = (.ok (.ok observed), mid))
      (hrest : Observes h app kind rest (status.observe target.entry observed) mid status' unseen
        after) :
      Observes h app kind (target :: rest) status s status' unseen after

/-- Kinds are looked after one after the other: their targets are brought in line, then looked up
for the status, and the users are told of what goes wrong. -/
inductive Surveys (h : Handler σ) (app : CompositeApp) :
    List ChildKind → AppStatus → σ → List KindReport → AppStatus → σ → Prop where
  | nil (status : AppStatus) (s : σ) : Surveys h app [] status s [] status s
  | cons {kind : ChildKind} {kinds : List ChildKind} {status seen status' : AppStatus}
      {s converged observed after : σ} {results : List (Except ApplyError Change)}
      {unseen : Option ApplyError} {reports : List KindReport}
      (hresults : InTurn h (Pass.converge app kind) (app.targets kind.scope) s results converged)
      (hseen : Observes h app kind (app.watched kind) status
        (h.warn app .applyFailed (ApplyError.hard? results) converged) seen unseen observed)
      (hrest : Surveys h app kinds seen (h.warn app .observeFailed unseen observed) reports status'
        after) :
      Surveys h app (kind :: kinds) status s (⟨kind, results, unseen⟩ :: reports) status' after

end Surveys

def Progress.surveyed (p : Progress) (reports : List KindReport) (status : AppStatus) : Progress :=
  { status
    failures := p.failures ++ (reports.flatMap KindReport.failures).map ApplyError.message
    raced := p.raced || reports.any KindReport.raced
    changes := p.changes ++ reports.flatMap KindReport.changes }

theorem Progress.surveyed_nil (p : Progress) : p.surveyed [] p.status = p := by
  simp [surveyed]

theorem Progress.surveyed_cons (p : Progress) (r : KindReport) (reports : List KindReport)
    (seen status : AppStatus) :
    p.surveyed (r :: reports) status = ((p.surveyed [r] seen).surveyed reports status) := by
  simp [surveyed, Bool.or_assoc]

def Progress.ofSurvey (reports : List KindReport) (status : AppStatus) : Progress :=
  Progress.surveyed {} reports status

namespace Progress

variable {reports : List KindReport} {status : AppStatus}

theorem failures_ofSurvey : (ofSurvey reports status).failures =
    (reports.flatMap KindReport.failures).map ApplyError.message :=
  List.nil_append _

theorem raced_ofSurvey : (ofSurvey reports status).raced = reports.any KindReport.raced :=
  Bool.false_or _

theorem success_ofSurvey : (ofSurvey reports status).success = true ↔ ∀ r ∈ reports,
    (∀ e, ApplyError.chief? r.results = some e → e.isRetryable = true) ∧ r.unseen = none := by
  rw [success, List.isEmpty_iff, failures_ofSurvey, List.map_eq_nil_iff, List.flatMap_eq_nil_iff]
  exact forall₂_congr fun r _ => KindReport.failures_eq_nil

end Progress

namespace Pass

variable {σ : Type} {h : Handler σ} {app : CompositeApp} {s after : σ}

theorem convergeAll_run {kind : ChildKind} {targets : List Target}
    {results : List (Except ApplyError Change)}
    (hturn : InTurn h (converge app kind) targets s results after) :
    (convergeAll app kind targets).run h s = (.ok results, after) := by
  induction hturn with
  | nil s => rfl
  | cons hrun hrest ih =>
    rw [convergeAll, run_bind, hrun]
    dsimp only
    rw [run_bind, ih]
    rfl

theorem exists_inTurn {I : σ → Prop} (hsteady : h.Steady I) (hvalid : app.validate = .ok ())
    (kind : ChildKind) (targets : List Target) (hs : I s) :
    ∃ results after, InTurn h (converge app kind) targets s results after ∧ I after := by
  induction targets generalizing s with
  | nil => exact ⟨[], s, .nil s, hs⟩
  | cons target rest ih =>
    obtain ⟨result, mid, hrun, -, hmid⟩ :=
      (converge_responds hvalid kind target).ends hsteady hs
    obtain ⟨results, after, hrest, hafter⟩ := ih hmid
    exact ⟨result :: results, after, .cons hrun hrest, hafter⟩

theorem observeAll_run {kind : ChildKind} {targets : List Target} {status seen : AppStatus}
    {unseen : Option ApplyError}
    (hobserves : Observes h app kind targets status s seen unseen after) :
    (observeAll app kind status targets).run h s = (.ok (seen, unseen), after) := by
  induction hobserves with
  | done status s => rfl
  | failed hlookup =>
    rw [observeAll, run_bind, ← CompositeApp.targetKey, hlookup]
    rfl
  | seen hlookup hrest ih =>
    rw [observeAll, run_bind, ← CompositeApp.targetKey, hlookup]
    exact ih

theorem exists_observes {I : σ → Prop} (hsteady : h.Steady I) (app : CompositeApp)
    (kind : ChildKind) (targets : List Target) (status : AppStatus) (hs : I s) :
    ∃ seen unseen after, Observes h app kind targets status s seen unseen after ∧ I after := by
  induction targets generalizing status s with
  | nil => exact ⟨status, none, s, .done status s, hs⟩
  | cons target rest ih =>
    obtain ⟨found, mid, hlookup, -, hmid⟩ :=
      (lookup_responds (app.targetKey kind target)).ends hsteady hs
    cases found with
    | error e => exact ⟨status, _, mid, .failed hlookup, hmid⟩
    | ok observed =>
      obtain ⟨seen, unseen, after, hrest, hafter⟩ := ih (status.observe target.entry observed) hmid
      exact ⟨seen, unseen, after, .seen hlookup hrest, hafter⟩

theorem updateStatus_eq (kind : ChildKind) (status : AppStatus) :
    updateStatus app kind status = observeAll app kind status (app.watched kind) := by
  unfold updateStatus CompositeApp.watched
  split <;> rfl

theorem settleKind_run (p : Progress) (results : List (Except ApplyError Change)) :
    (settleKind app p results).run h s =
      (.ok (p.settled results), h.warn app .applyFailed (ApplyError.hard? results) s) := by
  unfold settleKind Progress.settled ApplyError.hard?
  cases ApplyError.chief? results with
  | none => rfl
  | some e =>
    by_cases hretryable : e.isRetryable = true
    · simp only [hretryable, Option.filter]
      rfl
    · simp only [hretryable, Option.filter]
      rfl

theorem settleStatus_run (p : Progress) (seen : AppStatus) (unseen : Option ApplyError) :
    (settleStatus app p seen unseen).run h s =
      (.ok { p with status := seen, failures := p.failures ++ (unseen.map (·.message)).toList },
        h.warn app .observeFailed unseen s) := by
  cases unseen with
  | none => simp [settleStatus, run, Handler.warn, pure]
  | some e => rfl

/-- What is found out about a kind, from the result at each of its targets and from the lookups for
the status. -/
theorem settled_surveyed (p : Progress) (r : KindReport) (seen : AppStatus) :
    { p.settled r.results with
        status := seen
        failures := (p.settled r.results).failures ++ (r.unseen.map (·.message)).toList } =
      p.surveyed [r] seen := by
  obtain ⟨kind, results, unseen⟩ := r
  have hfailures : KindReport.failures ⟨kind, results, unseen⟩ =
      (ApplyError.hard? results).toList ++ unseen.toList := rfl
  have hraced : KindReport.raced ⟨kind, results, unseen⟩ =
      (ApplyError.chief? results).any (·.isRetryable) := rfl
  simp only [Progress.surveyed, List.flatMap_singleton, List.any_cons, List.any_nil, hfailures,
    hraced, ApplyError.hard?]
  unfold Progress.settled
  cases ApplyError.chief? results with
  | none => cases unseen <;> simp [KindReport.changes]
  | some e =>
    by_cases hretryable : e.isRetryable = true
    · cases unseen <;> simp [hretryable, Option.filter, KindReport.changes]
    · cases unseen <;> simp [hretryable, Option.filter, Progress.failed, KindReport.changes]

theorem lookAfterAll_run {kinds : List ChildKind} {p : Progress} {reports : List KindReport}
    {status : AppStatus} (hsurveys : Surveys h app kinds p.status s reports status after) :
    (lookAfterAll app p kinds).run h s = (.ok (p.surveyed reports status), after) := by
  generalize hstatus : p.status = start at hsurveys
  induction hsurveys generalizing p with
  | nil =>
    rw [← hstatus, Progress.surveyed_nil]
    rfl
  | @cons kind kinds start seen status s converged observed after results unseen reports
      hresults hseen hrest ih =>
    have hkind : (lookAfter app p kind).run h s =
        (.ok (p.surveyed [⟨kind, results, unseen⟩] seen),
          h.warn app .observeFailed unseen observed) := by
      rw [lookAfter, run_bind, apply, convergeAll_run hresults]
      dsimp only
      rw [run_bind, settleKind_run]
      dsimp only
      rw [run_bind, updateStatus_eq, Progress.status_settled, hstatus, observeAll_run hseen]
      dsimp only
      rw [settleStatus_run, ← settled_surveyed]
    rw [lookAfterAll, run_bind, hkind]
    dsimp only
    rw [ih rfl, ← Progress.surveyed_cons]

theorem exists_surveys {I : σ → Prop} (hsteady : h.Steady I) (hvalid : app.validate = .ok ())
    (kinds : List ChildKind) (status : AppStatus) (hs : I s) :
    ∃ reports status' after, Surveys h app kinds status s reports status' after ∧ I after := by
  have hwarn : ∀ event error s, I s → I (h.warn app event error s) := by
    intro event error s hs
    cases error with
    | none => exact hs
    | some e => exact hsteady.publish app _ s hs
  induction kinds generalizing status s with
  | nil => exact ⟨[], status, s, .nil status s, hs⟩
  | cons kind kinds ih =>
    obtain ⟨results, converged, hresults, hconverged⟩ :=
      exists_inTurn hsteady hvalid kind (app.targets kind.scope) hs
    obtain ⟨seen, unseen, observed, hseen, hobserved⟩ :=
      exists_observes hsteady app kind (app.watched kind) status
        (hwarn .applyFailed (ApplyError.hard? results) converged hconverged)
    obtain ⟨reports, status', after, hrest, hafter⟩ :=
      ih seen (hwarn .observeFailed unseen observed hobserved)
    exact ⟨_, status', after, .cons hresults hseen hrest, hafter⟩

/-- The pass behind the gate, from what it has found out and from what comes of its report. -/
theorem bringInLine_run_of_look {p : Progress} {surveyed : σ}
    {write : Except StoreError StatusWrite}
    (hlook : (lookAfterAll app {} ChildKind.all).run h s = (.ok p, surveyed))
    (hwrite : (writeStatus app (p.finalStatus app)).run h (h.announce app p surveyed) =
      (.ok write, after)) :
    (bringInLine app).run h s = (.ok (conclude write p.outcome), after) := by
  unfold Handler.announce at hwrite
  rw [bringInLine, run_bind, hlook]
  dsimp only
  by_cases hnews : p.isNews = true
  · rw [if_pos hnews] at hwrite ⊢
    change (writeStatus app (p.finalStatus app) >>= _).run h _ = _
    rw [run_bind, hwrite]
    rfl
  · rw [if_neg hnews] at hwrite ⊢
    rw [run_bind, hwrite]
    rfl

end Pass

/-- There is a report for each kind, in order. -/
theorem Surveys.kinds_eq {σ : Type} {h : Handler σ} {app : CompositeApp} {kinds : List ChildKind}
    {status status' : AppStatus} {s after : σ} {reports : List KindReport}
    (hsurveys : Surveys h app kinds status s reports status' after) :
    reports.map KindReport.kind = kinds := by
  induction hsurveys with
  | nil => rfl
  | cons hresults hseen hrest ih => rw [List.map_cons, ih]

section Writes

def Exchange.isChildWrite : Exchange → Bool
  | .called c (.ok _) => c.verb.isWrite && c.key.kind ≠ .app
  | .called _ (.error _) | .hooked _ _ => false

def childWrites (past : List Exchange) : Nat :=
  past.countP Exchange.isChildWrite

theorem childWrites_snoc (past : List Exchange) (e : Exchange) :
    childWrites (past ++ [e]) = childWrites past + if e.isChildWrite then 1 else 0 := by
  rw [childWrites, List.countP_append, List.countP_singleton, childWrites]

namespace Pass

variable {σ α : Type}

def exchanges (h : Handler σ) : Pass α → σ → List Exchange
  | done _, _ | abort _, _ => []
  | call c next, s =>
    match h.call c s with
    | (.ok reply, s) => .called c reply :: (next reply).exchanges h s
    | (.error _, _) => []
  | preDelete app next, s =>
    match h.preDelete app s with
    | (.ok result, s) => .hooked app result :: (next result).exchanges h s
    | (.error _, _) => []
  | publish app event next, s => next.exchanges h (h.publish app event s)
  | record change next, s => next.exchanges h (h.record change s)

/-- What holds of every result given the exchanges before it holds of the result of a run. -/
theorem Obeys.exchanges {h : Handler σ} {possible : Call → Reply → Prop}
    {rule : List Exchange → Call → Prop} {p : Pass α} {past : List Exchange}
    {post : α → List Exchange → Prop} {s after : σ} {a : α}
    (hpossible : ∀ c reply, possible c reply) (hp : p.Obeys possible rule past post)
    (hrun : p.run h s = (.ok a, after)) : post a (past ++ p.exchanges h s) := by
  induction p generalizing past s with
  | done b =>
    obtain ⟨hb, -⟩ := Prod.mk.inj hrun
    obtain rfl := Except.ok.inj hb
    rw [Pass.exchanges, List.append_nil]
    exact hp
  | abort cause => exact absurd (Prod.mk.inj hrun).1 (by simp)
  | call c next ih =>
    simp only [run] at hrun
    rw [Pass.exchanges]
    rcases hcall : h.call c s with ⟨_ | reply, mid⟩ <;> rw [hcall] at hrun
    · exact absurd (Prod.mk.inj hrun).1 (by simp)
    · rw [List.append_cons]
      exact ih reply (hp.2 reply (hpossible c reply)) hrun
  | preDelete app next ih =>
    simp only [run] at hrun
    rw [Pass.exchanges]
    rcases hhook : h.preDelete app s with ⟨_ | result, mid⟩ <;> rw [hhook] at hrun
    · exact absurd (Prod.mk.inj hrun).1 (by simp)
    · rw [List.append_cons]
      exact ih result (hp result) hrun
  | publish app event next ih => exact ih hp hrun
  | record change next ih => exact ih hp hrun

/-- Whatever is answered, there is this to say of the result and of the number of child writes. -/
def Counts (p : Pass α) (past : List Exchange) (post : α → Nat → Prop) : Prop :=
  p.Obeys (fun _ _ => True) (fun _ _ => True) past fun a later => post a (childWrites later)

theorem Counts.bind {β : Type} {p : Pass α} {f : α → Pass β} {past : List Exchange}
    {R : α → Nat → Prop} {post : β → Nat → Prop} (hp : p.Counts past R)
    (hf : ∀ a later, R a (childWrites later) → (f a).Counts later post) :
    (p >>= f).Counts past post :=
  Obeys.bind hp hf

theorem Counts.perform {c : Call} {past : List Exchange} {post : Reply → Nat → Prop}
    (hpost : ∀ reply, post reply
      (childWrites past + if (Exchange.called c reply).isChildWrite then 1 else 0)) :
    (perform c).Counts past post := by
  refine Obeys.perform trivial fun reply _ => ?_
  rw [childWrites_snoc]
  exact hpost reply

theorem Counts.ofAborting {result : Aborting α} {past : List Exchange} :
    (ofAborting result).Counts past fun _ n => n = childWrites past :=
  Obeys.ofAborting.mono fun _ _ hlater => hlater.2 ▸ rfl

variable {app : CompositeApp} {past : List Exchange}

theorem lookup_counts (key : ObjectKey) :
    (lookup key).Counts past fun _ n => n = childWrites past := by
  refine Counts.bind (R := fun _ n => n = childWrites past) (Counts.perform fun reply => ?_)
    fun _ _ hlater => hlater
  cases reply <;> rfl

/-- A change that is reported counts as a write just if its object was written. -/
theorem carryOut_counts {key : ObjectKey} (hkey : key.kind ≠ .app) (action : Action) :
    (carryOut key action).Counts past fun result n =>
      n = childWrites past + Change.writes (Change.ofResults [result]) := by
  unfold carryOut
  dsimp only
  cases hwrite : action.write? key with
  | none =>
    obtain rfl := Action.write?_eq_none hwrite
    exact rfl
  | some write =>
    obtain ⟨houtcome, hverb⟩ := Action.isWrite_of_write? hwrite
    have hchild : write.key.kind ≠ .app := by
      cases action with
      | keep => exact absurd hwrite (by simp [Action.write?])
      | create object | update object =>
        obtain rfl := Option.some.inj hwrite
        exact Kind.noConfusion
      | delete =>
        obtain rfl := Option.some.inj hwrite
        exact hkey
    refine Counts.bind (R := fun reply n => n = childWrites past + if reply.isOk then 1 else 0)
      (Counts.perform fun reply => ?_) fun reply later hlater => ?_
    · cases reply with
      | error e => rfl
      | ok stored =>
        have hcounted : (Exchange.called write (.ok stored)).isChildWrite = true := by
          simp [Exchange.isChildWrite, hverb, hchild]
        rw [if_pos hcounted]
        rfl
    · cases reply with
      | error e => exact hlater
      | ok stored =>
        have hone : Change.writes (Change.ofResults
            [.ok ⟨key.kind.name, key.name, action.outcome⟩]) = 1 := by
          rw [Change.writes_ofResults_ok, if_pos houtcome]
        exact hlater.trans (congrArg (childWrites past + ·) hone).symm

theorem converge_counts (kind : ChildKind) (target : Target) :
    (converge app kind target).Counts past fun result n =>
      n = childWrites past + Change.writes (Change.ofResults [result]) := by
  unfold converge
  refine (lookup_counts _).bind fun found later hlater => ?_
  rw [← hlater]
  cases found with
  | error e => exact rfl
  | ok observed =>
    refine Counts.ofAborting.bind fun desired last hlast => ?_
    rw [← hlast]
    cases Action.decide app target.name desired observed with
    | error e => exact rfl
    | ok action => exact carryOut_counts (by simp) action

theorem convergeAll_counts (kind : ChildKind) (targets : List Target) :
    (convergeAll app kind targets).Counts past fun results n =>
      n = childWrites past + Change.writes (Change.ofResults results) := by
  induction targets generalizing past with
  | nil => exact rfl
  | cons target rest ih =>
    refine (converge_counts kind target).bind fun result later hlater => ?_
    refine Counts.bind ih fun results last hlast => ?_
    have hsplit : Change.ofResults (result :: results) =
        Change.ofResults [result] ++ Change.ofResults results :=
      Change.ofResults_append [result] results
    change childWrites last =
      childWrites past + Change.writes (Change.ofResults (result :: results))
    rw [hsplit, Change.writes_append, hlast, hlater, Nat.add_assoc]

theorem observeAll_counts (kind : ChildKind) (status : AppStatus) (targets : List Target) :
    (observeAll app kind status targets).Counts past fun _ n => n = childWrites past := by
  induction targets generalizing past status with
  | nil => exact rfl
  | cons target rest ih =>
    refine (lookup_counts _).bind fun found later hlater => ?_
    rw [← hlater]
    cases found with
    | error e => exact rfl
    | ok observed => exact ih _

theorem settleKind_counts (p : Progress) (results : List (Except ApplyError Change)) :
    (settleKind app p results).Counts past fun p' n => n = childWrites past ∧
      p'.writes = p.writes + Change.writes (Change.ofResults results) := by
  have hwrites : ∀ p' : Progress, p'.changes = p.changes ++ Change.ofResults results →
      p'.writes = p.writes + Change.writes (Change.ofResults results) := by
    intro p' hchanges
    rw [Progress.writes, hchanges, Change.writes_append, Progress.writes]
  unfold settleKind
  dsimp only
  split
  · exact ⟨rfl, hwrites _ rfl⟩
  · split
    · exact ⟨rfl, hwrites _ rfl⟩
    · exact ⟨rfl, hwrites _ rfl⟩

theorem settleStatus_counts (p : Progress) (status : AppStatus) (error : Option ApplyError) :
    (settleStatus app p status error).Counts past fun p' n => n = childWrites past ∧
      p'.writes = p.writes := by
  cases error with
  | none => exact ⟨rfl, rfl⟩
  | some e => exact ⟨rfl, rfl⟩

theorem lookAfter_counts (p : Progress) (kind : ChildKind) :
    (lookAfter app p kind).Counts past fun p' n => n + p.writes = childWrites past + p'.writes := by
  unfold lookAfter
  refine (convergeAll_counts kind _).bind fun results converged hconverged => ?_
  refine (settleKind_counts p results).bind fun settled told htold => ?_
  rw [updateStatus_eq]
  refine (observeAll_counts kind _ _).bind fun reported observed hobserved => ?_
  refine (settleStatus_counts settled reported.1 reported.2).mono fun p' last hlast => ?_
  obtain ⟨hcount, hwrites⟩ := hlast
  rw [hcount, hwrites, hobserved, htold.1, htold.2, hconverged]
  omega

theorem lookAfterAll_counts (p : Progress) (kinds : List ChildKind) :
    (lookAfterAll app p kinds).Counts past fun p' n =>
      n + p.writes = childWrites past + p'.writes := by
  induction kinds generalizing past p with
  | nil => exact rfl
  | cons kind rest ih =>
    refine (lookAfter_counts p kind).bind fun mid later hlater => ?_
    refine (ih mid).mono fun p' last hlast => ?_
    omega

theorem writeStatus_counts (status : AppStatus) :
    (writeStatus app status).Counts past fun _ n => n = childWrites past := by
  unfold writeStatus
  split
  · exact rfl
  · refine Counts.bind (R := fun _ n => n = childWrites past) (Counts.perform fun reply => ?_)
      fun reply later hlater => ?_
    · cases reply <;> rfl
    · rcases reply with ⟨_ | _⟩ | _ <;> exact hlater

theorem bringInLine_counts :
    (bringInLine app).Counts past fun result n => ∀ success writes,
      result = .ok (.converged success writes) → n = childWrites past + writes := by
  have hreport : ∀ (p : Progress) (told : List Exchange),
      childWrites told + 0 = childWrites past + p.writes →
      Counts (do
        return conclude (← writeStatus app (p.finalStatus app))
          (if p.raced then .retry else .converged p.success p.writes)) told
        fun result n => ∀ success writes,
          result = .ok (.converged success writes) → n = childWrites past + writes := by
    intro p told htold
    refine (writeStatus_counts _).bind fun write last hlast success writes hresult => ?_
    have hwrites : p.writes = writes := by
      by_cases hraced : p.raced = true
      · rw [if_pos hraced] at hresult
        rcases write with e | _ | _ | _ <;> exact absurd hresult (by simp [conclude])
      · rw [if_neg hraced] at hresult
        rcases write with e | _ | _ | _
        · exact absurd hresult (by simp [conclude])
        · exact (PassOutcome.converged.inj (Except.ok.inj hresult)).2
        · exact (PassOutcome.converged.inj (Except.ok.inj hresult)).2
        · exact absurd hresult (by simp [conclude])
    rw [hlast, ← hwrites]
    exact htold
  unfold bringInLine
  refine (lookAfterAll_counts {} _).bind fun p later hlater => ?_
  dsimp only
  split
  · exact hreport p later hlater
  · exact hreport p later hlater

theorem persist_counts (written : CompositeApp) :
    (persist written).Counts past fun _ n => n = childWrites past := by
  unfold persist
  refine Counts.bind (R := fun _ n => n = childWrites past) (Counts.perform fun reply => ?_)
    fun reply later hlater => ?_
  · cases reply <;> rfl
  · rcases reply with ⟨_ | _⟩ | _ <;> exact hlater

theorem gate_counts (app : CompositeApp) :
    (gate app).Counts past fun _ n => n = childWrites past := by
  unfold gate
  cases FinalizerState.of app with
  | unregistered =>
    refine (persist_counts _).bind fun _ later hlater => ?_
    exact hlater
  | registered => exact rfl
  | finalizing =>
    have hhook : (runHook app).Counts past fun _ n => n = childWrites past :=
      fun result => childWrites_snoc past (.hooked app result)
    refine hhook.bind fun result later hlater => ?_
    rw [← hlater]
    cases result with
    | error reason => exact rfl
    | ok _ =>
      refine (persist_counts _).bind fun _ last hlast => ?_
      exact hlast
  | released => exact rfl

/-- The writes with which a pass says that it has converged are those it has made. -/
theorem reconcile_counts (app : CompositeApp) :
    (reconcile app).Counts [] fun result n =>
      ∀ success writes, result = .ok (.converged success writes) → n = writes := by
  unfold reconcile
  refine (gate_counts app).bind fun opened later hlater => ?_
  rcases opened with e | copy | _ | _ | _
  · exact fun _ _ h => absurd h (by simp)
  · dsimp only
    unfold work
    rcases copy.validate with (cause | cause) | _
    · have htell : (tell copy (.invalidSpec cause.message)).Counts later fun _ _ => True := trivial
      refine htell.bind fun _ told _ => ?_
      refine (writeStatus_counts _).bind fun write last _ success writes hresult => ?_
      rcases write with e | _ | _ | _ <;> exact absurd hresult (by simp [conclude])
    · exact trivial
    · refine (bringInLine_counts).mono fun result last hlast success writes hresult => ?_
      rw [hlast success writes hresult, hlater]
      exact Nat.zero_add writes
  all_goals exact fun _ _ h => absurd h (by simp)

/-- The writes with which a run says that it has converged are those it has made. -/
theorem writes_eq_of_converged {h : Handler σ} {app : CompositeApp} {s after : σ} {success : Bool}
    {writes : Nat}
    (hrun : (reconcile app).run h s = (.ok (.ok (.converged success writes)), after)) :
    writes = childWrites ((reconcile app).exchanges h s) :=
  (Obeys.exchanges (fun _ _ => trivial) (reconcile_counts app) hrun success writes rfl).symm

end Pass

end Writes

end CompositeApps
