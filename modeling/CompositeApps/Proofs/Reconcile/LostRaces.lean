import CompositeApps.Api.Client
import CompositeApps.Proofs.Reconcile.Classification

/-!
Races over one object. Somebody else makes a call between the lookup of the object and the write
that follows from it. Most of the races that are lost so are known for what they are and told to
nobody; those in which the object is gone, or in memory has come into being, are reported as
failures.
-/

namespace CompositeApps

/-- How an API refuses calls: it says by its code what is missing, and what conflicts. -/
structure Refusals where
  failure : Call → StoreError → ApiFailure
  notFound : ∀ call, (failure call .notFound).code = 404
  conflict : ∀ call reason, (failure call (.conflict reason)).code = 409
  api : ∀ call code reason, (failure call (.api code reason)).code = code

inductive Backend where
  | memory
  | api (refusals : Refusals)

/-- What is answered to a call that fails in the cluster. That an object cannot be read is found out
on this side of the API. -/
def Backend.refuse (b : Backend) (call : Call) (e : StoreError) : Reply :=
  match b, e with
  | memory, e => .error e
  | api _, .malformed reason => .error (.malformed reason)
  | api refusals, e => ApiClient.replyOfFailure call (refusals.failure call e)

def Backend.answer (b : Backend) (call : Call) : Reply → Reply
  | .ok found => .ok found
  | .error e => b.refuse call e

structure Contested where
  cluster : Cluster
  rival : Option Call

namespace Contested

def left (s : Contested) : Cluster :=
  match s.rival with
  | some call => (s.cluster.perform call).2
  | none => s.cluster

def call (b : Backend) (c : Call) (s : Contested) : Aborting Reply × Contested :=
  match c with
  | .get key => (.ok (s.cluster.get key), { cluster := s.left, rival := none })
  | c =>
    let (reply, cluster) := s.cluster.perform c
    (.ok (b.answer c reply), { s with cluster })

def handler (b : Backend) : Handler Contested where
  call := call b
  preDelete _ s := (.ok (.ok ()), s)
  publish _ _ s := s
  record _ s := s

end Contested

/-- The work on a target ends in an error that is no lost race: by what is found when it is looked
up, and what is left when it is written. -/
inductive CompositeApp.Fails (app : CompositeApp) (b : Backend) (kind : ChildKind)
    (target : Target) (found left : Option Resource) : Prop where
  /-- The object to be replaced is gone. -/
  | gone (object : Child) (hplan : app.plan kind target found = .ok (.update object))
      (hgone : left = none)
  /-- The object to be created is there, and the store does not call that a conflict. -/
  | made (object : Child) (stored : Resource) (hmemory : b = .memory)
      (hplan : app.plan kind target found = .ok (.create object)) (hmade : left = some stored)
  /-- No race is needed: nothing can be owned by the app. -/
  | unowned (hnone : app.controllerReference? = none) (e : ApplyError)
      (hplan : app.plan kind target found = .error e) (hhard : e.isRetryable = false)
  /-- Nor is one if what is found cannot be read. -/
  | unread (e : StoreError) (hunread : Reply.ofStored found = .error e)

namespace Cluster

variable {c : Cluster} {r : Resource}

theorem perform_replace_of_none (hgone : c.get? r.key = none) :
    c.perform (.replace r) = (.error .notFound, c) := by
  have hlookup : c.objects[r.key]? = none := hgone
  simp only [perform, replace, hlookup]
  rfl

/-- What is stored is replaced, unless it has another version. -/
theorem perform_replace_of_some {stored : Resource} (hfinite : r.isFinite = true)
    (hstored : c.get? r.key = some stored) :
    (∃ reply after, c.perform (.replace r) = (.ok reply, after)) ∨
      ∃ reason, c.perform (.replace r) = (.error (.conflict reason), c) := by
  have hlookup : c.objects[r.key]? = some stored := hstored
  cases hversion : stored.metadata.checkVersion r.metadata with
  | error e =>
    obtain ⟨reason, rfl⟩ : ∃ reason, e = .conflict reason := by
      unfold ObjectMeta.checkVersion at hversion
      split at hversion
      · exact absurd hversion (by simp)
      · split at hversion
        · exact absurd hversion (by simp)
        · exact ⟨_, (Except.error.inj hversion).symm⟩
    refine Or.inr ⟨reason, ?_⟩
    simp only [perform, replace, hlookup, hversion]
    rfl
  | ok =>
    have hread : (some (replacement stored r (c.version + 1))).all (·.isFinite) = true :=
      (isFinite_replacement stored r (c.version + 1)).trans hfinite
    cases hreleased : (replacement stored r (c.version + 1)).metadata.isReleased with
    | true =>
      have heffect := Effect.released r stored hstored hversion hreleased
      exact Or.inl ⟨_, _, heffect.perform_of_isFinite hread⟩
    | false =>
      have heffect := Effect.replaced r stored hstored hversion hreleased
      exact Or.inl ⟨_, _, heffect.perform_of_isFinite hread⟩

/-- Where nothing is stored an object is created. -/
theorem exists_perform_create_of_none (hfinite : r.isFinite = true) (hfree : c.get? r.key = none) :
    ∃ reply after, c.perform (.create r) = (.ok reply, after) :=
  ⟨_, _, (Effect.created r hfree).perform_of_isFinite ((isFinite_newborn _ r).trans hfinite)⟩

end Cluster

namespace Backend

variable {b : Backend} {r : Resource}

theorem refuse_conflict (b : Backend) (r : Resource) (reason : String) :
    ∃ told, b.refuse (.replace r) (.conflict reason) = .error (.conflict told) := by
  cases b with
  | memory => exact ⟨reason, rfl⟩
  | api refusals =>
    have hcode := refusals.conflict (.replace r) reason
    refine ⟨(refusals.failure (.replace r) (.conflict reason)).message, ?_⟩
    simp only [refuse, ApiClient.replyOfFailure, ApiFailure.toStoreError, hcode]
    rfl

theorem refuse_notFound (b : Backend) (r : Resource) :
    b.refuse (.replace r) .notFound = .error .notFound := by
  cases b with
  | memory => rfl
  | api refusals =>
    have hcode := refusals.notFound (.replace r)
    simp only [refuse, ApiClient.replyOfFailure, ApiFailure.toStoreError, hcode]
    rfl

/-- That an object is there already is a conflict to those behind the API alone. -/
theorem refuse_exists (b : Backend) (r : Resource) (reason : String) :
    b = .memory ∧ b.refuse (.create r) (.api 409 reason) = .error (.api 409 reason) ∨
      b ≠ .memory ∧
        ∃ told, b.refuse (.create r) (.api 409 reason) = .error (.conflict told) := by
  cases b with
  | memory => exact Or.inl ⟨rfl, rfl⟩
  | api refusals =>
    have hcode := refusals.api (.create r) 409 reason
    refine Or.inr ⟨nofun, (refusals.failure (.create r) (.api 409 reason)).message, ?_⟩
    simp only [refuse, ApiClient.replyOfFailure, ApiFailure.toStoreError, hcode]
    rfl

end Backend

namespace Contested

variable {b : Backend} {c : Call} {s : Contested}

theorem call_of_ok {reply : Option Resource} {after : Cluster} (hwrite : c.verb ≠ .get)
    (h : s.cluster.perform c = (.ok reply, after)) :
    (handler b).call c s = (.ok (.ok reply), { s with cluster := after }) := by
  cases c with
  | get key => exact absurd rfl hwrite
  | create | replace | replaceStatus | delete => simp only [handler, call, h, Backend.answer]

theorem call_of_error {e : StoreError} {after : Cluster} (hwrite : c.verb ≠ .get)
    (h : s.cluster.perform c = (.error e, after)) :
    (handler b).call c s = (.ok (b.refuse c e), { s with cluster := after }) := by
  cases c with
  | get key => exact absurd rfl hwrite
  | create | replace | replaceStatus | delete => simp only [handler, call, h, Backend.answer]

end Contested

namespace CompositeApp

variable {app : CompositeApp} {b : Backend} {kind : ChildKind} {target : Target}
  {found left : Option Resource}

/-- Where something is planned, what is found was read. -/
theorem not_unread_of_plan {action : Action} (hplan : app.plan kind target found = .ok action)
    (e : StoreError) : Reply.ofStored found ≠ .error e := by
  intro hunread
  exact absurd ((plan_of_unread hunread).symm.trans hplan) (by simp)

/-- What is planned fails for good in two ways only. -/
theorem fails_iff_of_plan {action : Action} (hplan : app.plan kind target found = .ok action) :
    app.Fails b kind target found left ↔ (∃ object, action = .update object ∧ left = none) ∨
      b = .memory ∧ (∃ object, action = .create object) ∧ ∃ stored, left = some stored := by
  constructor
  · rintro (⟨object, hother, hgone⟩ | ⟨object, stored, hmemory, hother, hmade⟩ |
      ⟨-, e, hother, -⟩ | ⟨e, hunread⟩)
    · exact Or.inl ⟨object, Except.ok.inj (hplan.symm.trans hother), hgone⟩
    · exact Or.inr ⟨hmemory, ⟨object, Except.ok.inj (hplan.symm.trans hother)⟩, stored, hmade⟩
    · exact absurd (hplan.symm.trans hother) (by simp)
    · exact absurd hunread (not_unread_of_plan hplan e)
  · rintro (⟨object, rfl, hgone⟩ | ⟨hmemory, ⟨object, rfl⟩, stored, hmade⟩)
    · exact .gone object hplan hgone
    · exact .made object stored hmemory hplan hmade

theorem fails_of_create {object : Child}
    (hplan : app.plan kind target found = .ok (.create object)) :
    app.Fails b kind target found left ↔ b = .memory ∧ ∃ stored, left = some stored := by
  simp [fails_iff_of_plan hplan]

theorem fails_of_update {object : Child}
    (hplan : app.plan kind target found = .ok (.update object)) :
    app.Fails b kind target found left ↔ left = none := by
  simp [fails_iff_of_plan hplan]

/-- An error that is planned is no race to lose, unless an earlier object is still going. -/
theorem fails_of_plan_error {e : ApplyError} (hplan : app.plan kind target found = .error e) :
    app.Fails b kind target found left ↔ e.isRetryable = false := by
  cases hread : Reply.ofStored found with
  | error cause =>
    have hhard : e.isRetryable = false := by
      obtain rfl := Except.error.inj (hplan.symm.trans (plan_of_unread hread))
      cases found with
      | none => exact absurd hread (by simp [Reply.ofStored])
      | some r =>
        obtain ⟨-, message, rfl⟩ := Reply.exists_malformed hread
        rfl
    exact iff_of_true (.unread cause hread) hhard
  | ok stored =>
    obtain ⟨rfl, hfinite⟩ := Reply.ofStored_eq_ok.1 hread
    constructor
    · rintro (⟨object, hupdate, -⟩ | ⟨object, made, -, hcreate, -⟩ | ⟨-, e', herror, hhard⟩ |
        ⟨e', hunread⟩)
      · exact absurd (hplan.symm.trans hupdate) (by simp)
      · exact absurd (hplan.symm.trans hcreate) (by simp)
      · obtain rfl := Except.error.inj (hplan.symm.trans herror)
        exact hhard
      · exact absurd (hread.symm.trans hunread) (by simp)
    · intro hhard
      have hverdict := app.choice_verdict kind target found
      have hplan' := hplan
      rw [← plan_of_isFinite hfinite, hplan] at hverdict
      cases hverdict with
      | going => exact absurd hhard (by simp [ApplyError.isRetryable])
      | unclaimed wanted _ hnone => exact .unowned hnone _ hplan' hhard

end CompositeApp

namespace Pass

variable {b : Backend} {app : CompositeApp} {kind : ChildKind} {target : Target} {s : Contested}

theorem carryOut_run_of_ok {σ : Type} {h : Handler σ} {key : ObjectKey} {action : Action}
    {write : Call} {stored : Option Resource} {s mid : σ} (hwrite : action.write? key = some write)
    (hcall : h.call write s = (.ok (.ok stored), mid)) : ∃ after,
      (carryOut key action).run h s =
        (.ok (.ok ⟨key.kind.name, key.name, action.outcome⟩), after) := by
  have hperform : (perform write).run h s = (.ok (.ok stored), mid) := by
    simp only [perform, run, hcall]
  unfold carryOut
  simp only [hwrite]
  rw [run_bind, hperform]
  exact ⟨_, rfl⟩

theorem carryOut_run_of_error {σ : Type} {h : Handler σ} {key : ObjectKey} {action : Action}
    {write : Call} {e : StoreError} {s mid : σ} (hwrite : action.write? key = some write)
    (hcall : h.call write s = (.ok (.error e), mid)) :
    (carryOut key action).run h s = (.ok (.error (.store key.kind.name key.name e)), mid) := by
  have hperform : (perform write).run h s = (.ok (.error e), mid) := by
    simp only [perform, run, hcall]
  unfold carryOut
  simp only [hwrite]
  rw [run_bind, hperform]
  rfl

def EndsContested (b : Backend) {α : Type} (x : Pass (Except ApplyError α)) (s : Contested)
    (fails : Prop) : Prop :=
  ∃ result after, x.run (Contested.handler b) s = (.ok result, after) ∧
    ((∃ e, result = .error e ∧ e.isRetryable = false) ↔ fails)

variable {key : ObjectKey} {action : Action} {write : Call}

theorem carryOut_contested_of_ok {reply : Option Resource} {cluster : Cluster} {fails : Prop}
    (hwrite : action.write? key = some write) (hverb : write.verb ≠ .get)
    (hperform : s.cluster.perform write = (.ok reply, cluster)) (hfails : ¬ fails) :
    EndsContested b (carryOut key action) s fails := by
  obtain ⟨after, hrun⟩ := carryOut_run_of_ok hwrite (Contested.call_of_ok hverb hperform)
  refine ⟨_, after, hrun, ?_⟩
  simp [hfails]

theorem carryOut_contested_of_error {e told : StoreError} {cluster : Cluster} {fails : Prop}
    (hwrite : action.write? key = some write) (hverb : write.verb ≠ .get)
    (hperform : s.cluster.perform write = (.error e, cluster))
    (htold : b.refuse write e = .error told)
    (hfails : (ApplyError.store key.kind.name key.name told).isRetryable = false ↔ fails) :
    EndsContested b (carryOut key action) s fails := by
  have hcall := Contested.call_of_error (b := b) hverb hperform
  rw [htold] at hcall
  refine ⟨_, _, carryOut_run_of_error hwrite hcall, ?_⟩
  simpa using hfails

/-- A write that is planned fails for good just if its object is gone, or is there already and the
store does not call that a conflict. -/
theorem carryOut_contested {found : Option Resource} (hvalid : app.validate = .ok ())
    (htarget : target ∈ app.targets kind.scope)
    (hplan : app.plan kind target found = .ok action) :
    EndsContested b (carryOut (app.targetKey kind target) action) s
      (app.Fails b kind target found (s.cluster.get? (app.targetKey kind target))) := by
  have hchoice := (CompositeApp.plan_eq_ok.1 hplan).2
  cases action with
  | keep =>
    refine ⟨_, _, rfl, ?_⟩
    simp [CompositeApp.fails_iff_of_plan hplan]
  | create object =>
    have hwrite : (Action.create object).write? (app.targetKey kind target) =
      some (.create (.child object)) := rfl
    have hkey : (Resource.child object).key = app.targetKey kind target :=
      CompositeApp.key_of_choice hvalid htarget hchoice hwrite
    have hfinite := CompositeApp.isFinite_of_choice hvalid htarget hchoice (Or.inl rfl)
    rw [CompositeApp.fails_of_create hplan]
    cases hleft : s.cluster.get? (app.targetKey kind target) with
    | none =>
      obtain ⟨reply, after, hperform⟩ :=
        Cluster.exists_perform_create_of_none (r := .child object) hfinite (hkey ▸ hleft)
      exact carryOut_contested_of_ok hwrite nofun hperform (by simp)
    | some stored =>
      have hperform := Cluster.perform_create_of_some (hkey ▸ hleft)
      rcases b.refuse_exists (.child object) _ with ⟨hmemory, htold⟩ | ⟨hapi, told, htold⟩
      · exact carryOut_contested_of_error hwrite nofun hperform htold
          (by simp [hmemory, ApplyError.isRetryable])
      · exact carryOut_contested_of_error hwrite nofun hperform htold
          (by simp [hapi, ApplyError.isRetryable])
  | update object =>
    have hwrite : (Action.update object).write? (app.targetKey kind target) =
      some (.replace (.child object)) := rfl
    have hkey : (Resource.child object).key = app.targetKey kind target :=
      CompositeApp.key_of_choice hvalid htarget hchoice hwrite
    have hfinite := CompositeApp.isFinite_of_choice hvalid htarget hchoice (Or.inr rfl)
    rw [CompositeApp.fails_of_update hplan]
    cases hleft : s.cluster.get? (app.targetKey kind target) with
    | none =>
      exact carryOut_contested_of_error hwrite nofun
        (Cluster.perform_replace_of_none (hkey ▸ hleft)) (b.refuse_notFound _)
        (by simp [ApplyError.isRetryable])
    | some stored =>
      rcases Cluster.perform_replace_of_some (r := .child object) hfinite (hkey ▸ hleft) with
        ⟨reply, after, hperform⟩ | ⟨reason, hperform⟩
      · exact carryOut_contested_of_ok hwrite nofun hperform (by simp)
      · obtain ⟨told, htold⟩ := b.refuse_conflict (.child object) reason
        exact carryOut_contested_of_error hwrite nofun hperform htold
          (by simp [ApplyError.isRetryable])
  | delete =>
    exact carryOut_contested_of_ok rfl nofun rfl (by simp [CompositeApp.fails_iff_of_plan hplan])

/-- The plan is made from what the lookup finds, and carried out in what it leaves. -/
theorem converge_run_of_plan (hvalid : app.validate = .ok ()) :
    (converge app kind target).run (Contested.handler b) s =
      (match app.plan kind target (s.cluster.get? (app.targetKey kind target)) with
        | .error e => pure (.error e)
        | .ok action => carryOut (app.targetKey kind target) action : Pass _).run
          (Contested.handler b) { cluster := s.left, rival := none } := by
  have hlookup : (lookup (app.targetKey kind target)).run (Contested.handler b) s =
      (.ok ((·.bind (·.child?)) <$> s.cluster.get (app.targetKey kind target)),
        { cluster := s.left, rival := none }) := rfl
  rw [converge, run_bind, ← CompositeApp.targetKey, hlookup]
  cases hread : s.cluster.get (app.targetKey kind target) with
  | error e =>
    rw [CompositeApp.plan_of_unread hread]
    rfl
  | ok found =>
    obtain ⟨rfl, hfinite⟩ := Reply.ofStored_eq_ok.1 hread
    have hdesired := kind.desired_eq_wanted hvalid target.entry
      ((s.cluster.get? (app.targetKey kind target)).bind (·.child?))
    rw [CompositeApp.plan_of_isFinite hfinite, ← Action.decide_eq_choice hdesired]
    change (ofAborting (kind.desired app target.entry _) >>= _).run _ _ = _
    rw [hdesired]
    rfl

/-- What is reported of a target whose object somebody else writes to. -/
theorem converge_endsContested (hvalid : app.validate = .ok ())
    (htarget : target ∈ app.targets kind.scope) :
    EndsContested b (converge app kind target) s
      (app.Fails b kind target (s.cluster.get? (app.targetKey kind target))
        (s.left.get? (app.targetKey kind target))) := by
  unfold EndsContested
  rw [converge_run_of_plan hvalid]
  cases hplan : app.plan kind target (s.cluster.get? (app.targetKey kind target)) with
  | error e =>
    refine ⟨.error e, { cluster := s.left, rival := none }, rfl, ?_⟩
    rw [CompositeApp.fails_of_plan_error hplan]
    simp
  | ok action => exact carryOut_contested hvalid htarget hplan

/-- That the object to be replaced is gone is reported as such. -/
theorem converge_run_of_gone {object : Child} (hvalid : app.validate = .ok ())
    (htarget : target ∈ app.targets kind.scope)
    (hplan : app.plan kind target (s.cluster.get? (app.targetKey kind target)) =
      .ok (.update object))
    (hgone : s.left.get? (app.targetKey kind target) = none) :
    ((converge app kind target).run (Contested.handler b) s).1 =
      .ok (.error (.store kind.name target.name .notFound)) := by
  have hkey : (Resource.child object).key = app.targetKey kind target :=
    CompositeApp.key_of_choice hvalid htarget (CompositeApp.plan_eq_ok.1 hplan).2 rfl
  have hcall := Contested.call_of_error (b := b) (s := { cluster := s.left, rival := none })
    (c := .replace (.child object)) nofun (Cluster.perform_replace_of_none (hkey ▸ hgone))
  rw [b.refuse_notFound] at hcall
  rw [converge_run_of_plan hvalid, hplan]
  exact congrArg Prod.fst (carryOut_run_of_error rfl hcall)

/-- Among results that are no errors, a single one decides what is told. -/
theorem settleKind_of_single {σ : Type} (h : Handler σ) (app : CompositeApp) (p : Progress)
    {before later : List (Except ApplyError Change)} (result : Except ApplyError Change)
    (hbefore : ∀ e, .error e ∉ before) (hlater : ∀ e, .error e ∉ later) (t : σ) :
    ∃ p' told, (settleKind app p (before ++ result :: later)).run h t = (.ok p', told) ∧
      ((∀ e, result = .error e → e.isRetryable = true) → p'.failures = p.failures ∧ told = t) ∧
      ∀ e, result = .error e → e.isRetryable = false →
        p'.failures = p.failures ++ [e.message] ∧
          told = h.publish app (.applyFailed e.message) t := by
  refine ⟨_, _, settleKind_run p (before ++ result :: later), fun hraced => ?_,
    fun e he hhard => ?_⟩
  · have hretryable : ∀ e, .error e ∈ before ++ result :: later → e.isRetryable = true := by
      intro e he
      rcases List.mem_append.1 he with hmem | hmem
      · exact absurd hmem (hbefore e)
      · rcases List.mem_cons.1 hmem with heq | hmem
        · exact hraced e heq.symm
        · exact absurd hmem (hlater e)
    refine ⟨(Progress.settled_of_retryable hretryable).1, ?_⟩
    have hnone : ApplyError.hard? (before ++ result :: later) = none :=
      Option.filter_eq_none_iff.2 fun e he => by
        simp [hretryable e (ApplyError.mem_of_chief? he)]
    rw [hnone]
    rfl
  · have hchief : ApplyError.chief? (before ++ result :: later) = some e :=
      ApplyError.chief?_eq_of_isChief
        (.hard before later e (by rw [he]) hhard fun earlier hearlier =>
          absurd hearlier (hbefore earlier))
    constructor
    · rw [Progress.settled, hchief]
      simp [hhard, Progress.failed]
    · rw [ApplyError.hard?, hchief]
      simp [hhard, Handler.warn, Option.filter]

/-- Whether a race for an object that was lost is known for one. Whoever makes a call between the
lookup of the object and the write, the work on it ends in an error that is not retried just if the
object that is replaced is gone, or in memory the one that is created is there already, or if the
app can own nothing, or if what is looked up cannot be read. Among targets at which all goes well,
just such an error is told to the users and counts as a failure. -/
theorem converge_contested (b : Backend) (hvalid : app.validate = .ok ())
    (htarget : target ∈ app.targets kind.scope) (s : Contested) :
    ∃ result after, (converge app kind target).run (Contested.handler b) s = (.ok result, after) ∧
      ((∃ e, result = .error e ∧ e.isRetryable = false) ↔
        app.Fails b kind target (s.cluster.get? (app.targetKey kind target))
          (s.left.get? (app.targetKey kind target))) ∧
      ∀ {σ : Type} (h : Handler σ) (p : Progress) (before later : List (Except ApplyError Change))
        (t : σ), (∀ e, .error e ∉ before) → (∀ e, .error e ∉ later) →
        ∃ p' told, (settleKind app p (before ++ result :: later)).run h t = (.ok p', told) ∧
          ((∀ e, result = .error e → e.isRetryable = true) →
            p'.failures = p.failures ∧ told = t) ∧
          ∀ e, result = .error e → e.isRetryable = false →
            p'.failures = p.failures ++ [e.message] ∧
              told = h.publish app (.applyFailed e.message) t := by
  obtain ⟨result, after, hrun, hfails⟩ := converge_endsContested (b := b) (s := s) hvalid htarget
  exact ⟨result, after, hrun, hfails, fun h p before later t hbefore hlater =>
    settleKind_of_single h app p result hbefore hlater t⟩

end Pass

namespace Example

def refusals : Refusals where
  failure
    | _, .notFound => ⟨404, "NotFound", "object not found"⟩
    | _, .conflict reason => ⟨409, "Conflict", reason⟩
    | _, .api code reason => ⟨code, "", reason⟩
    | _, .malformed reason | _, .client reason => ⟨500, "InternalError", reason⟩
  notFound _ := rfl
  conflict _ _ := rfl
  api _ _ _ := rfl

def serviceKey : ObjectKey :=
  ⟨.child .service, "default", "shop"⟩

def contestedService : Contested :=
  { cluster, rival := some (.delete serviceKey) }

def contestedName : Contested :=
  { cluster := (({} : Cluster).seed (.app shop)).2
    rival := some (.create (.child (.service stray))) }

theorem contestedService_left : contestedService.left.get? serviceKey = none :=
  Objects.getElem?_remove_self _ _

end Example

namespace Pass

/-- A service that is deleted before the shop takes it over is reported as a failure. -/
theorem converge_contested_example :
    Example.shop.validate = .ok () ∧ ⟨"shop", none⟩ ∈ Example.shop.targets ChildKind.service.scope ∧
      ∃ e, ((converge Example.shop .service ⟨"shop", none⟩).run
        (Contested.handler (.api Example.refusals)) Example.contestedService).1 =
          .ok (.error e) ∧ e.isRetryable = false := by
  have hvalid : Example.shop.validate = .ok () := by decide +kernel
  have htarget : ⟨"shop", none⟩ ∈ Example.shop.targets ChildKind.service.scope := by
    decide +kernel
  obtain ⟨result, after, hrun, hfails, -⟩ := converge_contested (.api Example.refusals) hvalid
    htarget Example.contestedService
  have hgone : Example.shop.Fails (.api Example.refusals) .service ⟨"shop", none⟩
      (Example.contestedService.cluster.get? Example.serviceKey)
      (Example.contestedService.left.get? Example.serviceKey) :=
    .gone _ rfl Example.contestedService_left
  obtain ⟨e, he, hhard⟩ := hfails.2 hgone
  exact ⟨hvalid, htarget, e, by rw [hrun, he], hhard⟩

/-- Two races that are lost for good: the service is gone before it is replaced, in memory as well
as behind an API; and in memory, it is there before it is created. -/
theorem contested_races_told :
    (Example.shop.validate = .ok () ∧ Example.shop.metadata.uid = some "shop-uid") ∧
      (∀ b : Backend, ((converge Example.shop .service ⟨"shop", none⟩).run
        (Contested.handler b) Example.contestedService).1 =
          .ok (.error (.store "Service" "shop" .notFound))) ∧
      (ApplyError.store "Service" "shop" .notFound).isRetryable = false ∧
      ((converge Example.shop .service ⟨"shop", none⟩).run (Contested.handler .memory)
        Example.contestedName).1 =
          .ok (.error (.store "Service" "shop" (.api 409 "Service shop already exists"))) ∧
      (ApplyError.store "Service" "shop"
        (.api 409 "Service shop already exists")).isRetryable = false := by
  have hvalid : Example.shop.validate = .ok () := by decide +kernel
  have htarget : ⟨"shop", none⟩ ∈ Example.shop.targets ChildKind.service.scope := by
    decide +kernel
  refine ⟨⟨hvalid, rfl⟩, fun b => ?_, rfl, by rfl, rfl⟩
  exact converge_run_of_gone hvalid htarget rfl Example.contestedService_left

end Pass

end CompositeApps
