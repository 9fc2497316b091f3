import CompositeApps.Proofs.App.Overrun
import CompositeApps.Proofs.Cluster.Faults
import CompositeApps.Proofs.Reconcile.Run
import CompositeApps.Reconcile.World

/-!
When a pass aborts. The pass itself comes to a result whatever it is answered, unless the checks of
the spec abort; so where no call and no hook does, a span that overruns the clock is all that a pass
can abort of.
-/

namespace CompositeApps

/-- The calls and the hook of a handler come back from every state with an invariant, which they
keep. -/
structure Handler.Steady {σ : Type} (h : Handler σ) (I : σ → Prop) : Prop where
  call : ∀ c s, I s → ∃ reply after, h.call c s = (.ok reply, after) ∧ I after
  preDelete : ∀ app s, I s → ∃ result after, h.preDelete app s = (.ok result, after) ∧ I after
  publish : ∀ app event s, I s → I (h.publish app event s)
  record : ∀ change s, I s → I (h.record change s)

namespace Pass

variable {σ α β : Type}

def Returns : Pass α → (α → Prop) → Prop
  | done a, post => post a
  | abort _, _ => False
  | call _ next, post => ∀ reply, (next reply).Returns post
  | preDelete _ next, post => ∀ result, (next result).Returns post
  | publish _ _ next, post => next.Returns post
  | record _ next, post => next.Returns post

theorem Returns.bind {p : Pass α} {f : α → Pass β} {mid : α → Prop} {post : β → Prop}
    (hp : p.Returns mid) (hf : ∀ a, mid a → (f a).Returns post) : (p >>= f).Returns post := by
  change (p.bind f).Returns post
  induction p with
  | done a => exact hf a hp
  | abort cause => exact hp.elim
  | call c next ih => exact fun reply => ih reply (hp reply)
  | preDelete app next ih => exact fun result => ih result (hp result)
  | publish app event next ih => exact ih hp
  | record change next ih => exact ih hp

/-- Where calls and hook come back, such a pass ends with a result as described. -/
theorem Returns.ends {h : Handler σ} {I : σ → Prop} (hsteady : h.Steady I) {p : Pass α}
    {post : α → Prop} (hp : p.Returns post) {s : σ} (hs : I s) :
    Ends h p s fun a after => post a ∧ I after := by
  induction p generalizing s with
  | done a => exact .pure ⟨hp, hs⟩
  | abort cause => exact hp.elim
  | call c next ih =>
    obtain ⟨reply, after, hcall, hafter⟩ := hsteady.call c s hs
    obtain ⟨a, last, hrun, hpost⟩ := ih reply (hp reply) hafter
    exact ⟨a, last, by rw [run, hcall]; exact hrun, hpost⟩
  | preDelete app next ih =>
    obtain ⟨result, after, hhook, hafter⟩ := hsteady.preDelete app s hs
    obtain ⟨a, last, hrun, hpost⟩ := ih result (hp result) hafter
    exact ⟨a, last, by rw [run, hhook]; exact hrun, hpost⟩
  | publish app event next ih => exact ih hp (hsteady.publish app event s hs)
  | record change next ih => exact ih hp (hsteady.record change s hs)

def Responds (p : Pass α) : Prop :=
  p.Returns fun _ => True

theorem Responds.bind {p : Pass α} {f : α → Pass β} {post : β → Prop} (hp : p.Responds)
    (hf : ∀ a, (f a).Returns post) : (p >>= f).Returns post :=
  Returns.bind hp fun a _ => hf a

theorem perform_responds (c : Call) : (perform c).Responds :=
  fun _ => trivial

theorem tell_responds (app : CompositeApp) (event : Event) : (tell app event).Responds :=
  trivial

theorem lookup_responds (key : ObjectKey) : (lookup key).Responds :=
  (perform_responds _).bind fun _ => trivial

theorem carryOut_responds (key : ObjectKey) (action : Action) : (carryOut key action).Responds := by
  unfold carryOut
  dsimp only
  cases action.write? key with
  | none => exact trivial
  | some write =>
    refine (perform_responds write).bind fun reply => ?_
    cases reply with
    | error e => exact trivial
    | ok stored => exact trivial

section Valid

variable {app : CompositeApp}

theorem converge_responds (hvalid : app.validate = .ok ()) (kind : ChildKind) (target : Target) :
    (converge app kind target).Responds := by
  refine (lookup_responds _).bind fun found => ?_
  cases found with
  | error e => exact trivial
  | ok observed =>
    obtain ⟨desired, hdesired⟩ := kind.exists_ok_desired hvalid target.entry observed
    have hread : (ofAborting (kind.desired app target.entry observed)).Responds := by
      rw [hdesired]
      exact trivial
    refine hread.bind fun desired => ?_
    cases Action.decide app target.name desired observed with
    | error e => exact trivial
    | ok action => exact carryOut_responds _ action

theorem convergeAll_responds (hvalid : app.validate = .ok ()) (kind : ChildKind)
    (targets : List Target) : (convergeAll app kind targets).Responds := by
  induction targets with
  | nil => exact trivial
  | cons target targets ih =>
    refine (converge_responds hvalid kind target).bind fun result => ?_
    exact ih.bind fun _ => trivial

theorem settleKind_responds (p : Progress) (results : List (Except ApplyError Change)) :
    (settleKind app p results).Responds := by
  unfold settleKind
  dsimp only
  cases ApplyError.chief? results with
  | none => exact trivial
  | some e =>
    dsimp only
    split
    · exact trivial
    · exact trivial

theorem observeAll_responds (kind : ChildKind) (status : AppStatus) (targets : List Target) :
    (observeAll app kind status targets).Responds := by
  induction targets generalizing status with
  | nil => exact trivial
  | cons target targets ih =>
    refine (lookup_responds _).bind fun found => ?_
    cases found with
    | error e => exact trivial
    | ok observed => exact ih _

theorem updateStatus_responds (kind : ChildKind) (status : AppStatus) :
    (updateStatus app kind status).Responds := by
  unfold updateStatus
  split
  · exact observeAll_responds kind status _
  · exact trivial

theorem settleStatus_responds (p : Progress) (status : AppStatus) (error : Option ApplyError) :
    (settleStatus app p status error).Responds := by
  cases error with
  | none => exact trivial
  | some e => exact trivial

theorem lookAfterAll_responds (hvalid : app.validate = .ok ()) (p : Progress)
    (kinds : List ChildKind) : (lookAfterAll app p kinds).Responds := by
  induction kinds generalizing p with
  | nil => exact trivial
  | cons kind kinds ih =>
    refine Responds.bind ?_ fun p => ih p
    refine (convergeAll_responds hvalid kind _).bind fun results => ?_
    refine (settleKind_responds p results).bind fun p => ?_
    exact (updateStatus_responds kind p.status).bind fun (status, error) =>
      settleStatus_responds p status error

theorem writeStatus_responds (status : AppStatus) : (writeStatus app status).Responds := by
  unfold writeStatus
  split
  · exact trivial
  · refine (perform_responds _).bind fun reply => ?_
    rcases reply with e | stored
    · cases e <;> exact trivial
    · exact trivial

end Valid

def NoAbort {α : Type} (result : Except PassError α) : Prop :=
  ∀ reason, result ≠ .error (.aborted reason)

theorem noAbort_ok {a : α} : NoAbort (.ok a) := by
  intro reason h
  cases h

theorem NoAbort.map {result : Except PassError α} (h : NoAbort result) (f : α → β) :
    NoAbort (result.map f) := by
  intro reason hmap
  exact h reason (map_eq_error.1 hmap)

theorem noAbort_conclude (write : Except StoreError StatusWrite) (outcome : PassOutcome) :
    NoAbort (conclude write outcome) := by
  intro reason h
  rcases write with e | _ | _ | _ <;> cases h

theorem persist_returns (app : CompositeApp) : (persist app).Returns NoAbort := by
  refine (perform_responds _).bind fun reply => ?_
  rcases reply with e | stored
  · cases e <;> (intro reason h; cases h)
  · exact noAbort_ok

theorem gate_returns (app : CompositeApp) : (gate app).Returns NoAbort := by
  unfold gate
  cases FinalizerState.of app with
  | unregistered => exact (persist_returns _).bind fun result hresult => hresult.map _
  | registered => exact noAbort_ok
  | finalizing =>
    intro result
    cases result with
    | error reason =>
      intro reason h
      cases h
    | ok _ => exact (persist_returns _).bind fun result hresult => hresult.map _
  | released => exact noAbort_ok

theorem bringInLine_returns {app : CompositeApp} (hvalid : app.validate = .ok ()) :
    (bringInLine app).Returns NoAbort := by
  refine (lookAfterAll_responds hvalid {} ChildKind.all).bind fun p => ?_
  dsimp only
  split
  · exact (tell_responds _ _).bind fun _ =>
      (writeStatus_responds _).bind fun write => noAbort_conclude write _
  · exact (writeStatus_responds _).bind fun write => noAbort_conclude write _

theorem reject_returns (app : CompositeApp) (cause : ValidationError) :
    (reject app cause).Returns NoAbort :=
  (tell_responds _ _).bind fun _ =>
    (writeStatus_responds _).bind fun write => noAbort_conclude write _

/-- The work of a pass comes to a result unless the checks of the spec abort. -/
theorem work_returns {app : CompositeApp} (hover : ¬app.Overruns) :
    (work app).Returns NoAbort := by
  unfold work
  cases hverdict : app.validate with
  | ok _ => exact bringInLine_returns hverdict
  | error refusal =>
    cases refusal with
    | invalid cause => exact reject_returns app cause
    | aborted cause => exact absurd (CompositeApp.validate_eq_aborted.1 hverdict).1 hover

theorem work_eq_abort {app : CompositeApp} (hover : app.Overruns) :
    work app = abort Duration.overrun := by
  rw [work, CompositeApp.validate_eq_aborted.2 ⟨hover, rfl⟩]

/-- Where calls and hook come back, a pass is reported as aborted just if the gate lets through a
copy of the app with a span that overruns the clock, where all that is asked before it is met.
What is made from any app aborts only where a span of its policy overruns the clock. -/
theorem reconcile_aborted {h : Handler σ} {I : σ → Prop} (hsteady : h.Steady I)
    (app : CompositeApp) {s : σ} (hs : I s) :
    (∀ reason, PassError.ofAbort ((reconcile app).run h s).1 = .error (.aborted reason) ↔
      reason = Duration.overrun.message ∧ ∃ copy after,
        (gate app).run h s = (.ok (.ok (.proceed copy)), after) ∧ copy.Overruns) ∧
    ∀ kind entry observed cause, ChildKind.desired kind app entry observed = .error cause →
      ∃ p, app.spec.policy = some p ∧ Desired.OverrunAmong p.requirements cause := by
  refine ⟨?_, fun kind entry observed cause => ChildKind.overrunAmong_of_desired⟩
  intro reason
  obtain ⟨opened, after, hgate, hopened, hafter⟩ := (gate_returns app).ends hsteady hs
  unfold reconcile
  rw [run_bind, hgate]
  dsimp only
  rcases opened with e | copy | _ | _ | _
  · constructor
    · intro haborted
      obtain rfl := Except.error.inj haborted
      exact absurd rfl (hopened reason)
    · rintro ⟨-, copy, last, hproceed, -⟩
      simp at hproceed
  · dsimp only
    by_cases hover : copy.Overruns
    · rw [work_eq_abort hover]
      constructor
      · intro haborted
        refine ⟨?_, copy, after, rfl, hover⟩
        exact (PassError.aborted.inj (Except.error.inj haborted)).symm
      · rintro ⟨rfl, -⟩
        rfl
    · obtain ⟨result, last, hrun, hresult, -⟩ := (work_returns hover).ends hsteady hafter
      rw [hrun]
      constructor
      · intro haborted
        exact absurd haborted (hresult reason)
      · rintro ⟨-, other, _, hproceed, hother⟩
        obtain ⟨rfl, -⟩ : copy = other ∧ _ := by simpa using hproceed
        exact absurd hother hover
  all_goals
    constructor
    · intro haborted
      cases haborted
    · rintro ⟨-, copy, last, hproceed, -⟩
      simp at hproceed

end Pass

def World.Answering (w : World) : Prop :=
  w.store.Answering

theorem World.handler_steady : World.handler.Steady World.Answering where
  call c w hw := by
    obtain ⟨reply, after, hperform, htried⟩ := FaultyCluster.exists_tried hw c
    refine ⟨reply, { w with store := after }, ?_, hw.of_rules htried.rules_eq⟩
    simp only [handler, call, hperform]
  preDelete _ _ hw := ⟨_, _, rfl, hw⟩
  publish _ _ _ hw := hw
  record _ _ hw := hw

namespace Example

def clock : CompositeApp :=
  { metadata := {
      name := some "clock", namespaceName := some "default", uid := some "clock-uid"
      finalizers := some [finalizer] }
    spec := {
      apps := [
        { version := "v1", image := "clock:1", minReplicas := 1, maxReplicas := 1, port := 8080 }]
      policy := some { timeout := some "18446744073709551615s 1000ms" } } }

def clockWorld : World :=
  { store := { cluster := (({} : Cluster).seed (.app clock)).2 } }

end Example

theorem Pass.reconcile_aborted_example :
    World.handler.Steady World.Answering ∧ Example.clockWorld.Answering ∧
      Example.clock.Overruns ∧
      PassError.ofAbort ((reconcile Example.clock).run World.handler Example.clockWorld).1 =
        .error (.aborted Duration.overrun.message) := by
  have hanswering : Example.clockWorld.Answering := by
    intro rule hrule
    cases hrule
  have hverdict : Example.clock.validate = .error (.aborted Duration.overrun) := by rfl
  have hover := (CompositeApp.validate_eq_aborted.1 hverdict).1
  obtain ⟨haborted, -⟩ :=
    Pass.reconcile_aborted World.handler_steady Example.clock hanswering
  refine ⟨World.handler_steady, hanswering, hover, (haborted _).2 ⟨rfl, Example.clock, ?_⟩⟩
  exact ⟨Example.clockWorld, rfl, hover⟩

/-- A spec can abort the pass by itself: no collaborator fails here. -/
theorem World.reconcile_runs_over :
    Example.clockWorld.store.rules = [] ∧ Example.clockWorld.hookFailure = none ∧
      (Example.clockWorld.reconcile Example.clock Duration.zero).1 =
        .error (.aborted "overflow in Duration::new") :=
  ⟨rfl, rfl, rfl⟩

end CompositeApps
