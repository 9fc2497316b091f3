import CompositeApps.Proofs.App.Followed
import CompositeApps.Proofs.Reconcile.Answers
import CompositeApps.Proofs.Reconcile.Converge

/-!
The calls that a pass makes, whatever the store answers. Behind the gate it looks up the objects of
its targets and writes what it chooses for what it has found; each of its writes is of the app or of
one of these objects, and is based on what the pass has read of it.
-/

namespace CompositeApps

namespace CompositeApp

/-- What a replace makes of the stored app is another copy of the one it was given. -/
theorem exists_replacement (stored : Resource) (app : CompositeApp) (version : Nat) :
    ∃ copy, Cluster.replacement stored (.app app) version = .app copy ∧ copy.CopyOf app := by
  cases stored with
  | app s => exact ⟨_, rfl, _, _, _, _, _, _, rfl⟩
  | child s => exact ⟨_, rfl, _, _, _, _, _, _, rfl⟩

/-- The calls of the work behind the gate. Objects are looked up and written for a valid app only,
and a write is the one that is chosen for what was found just before it. -/
inductive Works (app : CompositeApp) (past : List Exchange) : Call → Prop where
  | lookup (hvalid : app.validate = .ok ()) (kind : ChildKind) (target : Target)
      (htarget : target ∈ app.targets kind.scope) :
      Works app past (.get (app.targetKey kind target))
  | write (hvalid : app.validate = .ok ()) (kind : ChildKind) (target : Target)
      (stored : Option Resource) (action : Action) (write : Call)
      (htarget : target ∈ app.targets kind.scope)
      (hseen : past.getLast? = some (.called (.get (app.targetKey kind target)) (.ok stored)))
      (hchoice : app.choice kind target stored = .ok action)
      (hwrite : action.write? (app.targetKey kind target) = some write) : Works app past write
  | report (status : AppStatus) :
      Works app past (.replaceStatus (.app { app with status := some status }))

/-- The copy of the app with which the gate lets a pass go on: the one that was read, if it lives
and carries the finalizer, or the one that was stored when it was given the finalizer. -/
structure LetThrough (app copy : CompositeApp) (past : List Exchange) : Prop where
  live : app.metadata.isTerminating = false
  held : finalizer ∈ app.metadata.finalizerList ∧ copy = app ∨
    .called (.replace (.app app.withFinalizer)) (.ok (some (.app copy))) ∈ past
  copyOf : copy.CopyOf app

theorem LetThrough.later {app copy : CompositeApp} {past later : List Exchange}
    (h : app.LetThrough copy past) (hlater : past ⊆ later) : app.LetThrough copy later :=
  ⟨h.live, h.held.imp_right fun hcalled => hlater hcalled, h.copyOf⟩

/-- The gate lets no app through that is on its way out. -/
theorem LetThrough.not_finalizing {app copy : CompositeApp} {past : List Exchange}
    (h : app.LetThrough copy past) : FinalizerState.of app ≠ .finalizing := by
  intro hstate
  have hgoing := (FinalizerState.of_eq_finalizing.1 hstate).2
  rw [h.live] at hgoing
  exact absurd hgoing (by simp)

/-- The writes of the gate: it puts the finalizer on a live app without it, and takes it off one
that is being deleted once the hook has run. -/
inductive Gates (app : CompositeApp) (past : List Exchange) : Call → Prop where
  | register (hstate : FinalizerState.of app = .unregistered) :
      Gates app past (.replace (.app app.withFinalizer))
  | release (hstate : FinalizerState.of app = .finalizing) (hhook : past = [.hooked app (.ok ())]) :
      Gates app past (.replace (.app app.withoutFinalizer))

inductive Undertakes (app : CompositeApp) (past : List Exchange) : Call → Prop where
  | gate {call : Call} (hgate : app.Gates past call) : Undertakes app past call
  | work (copy : CompositeApp) (call : Call) (hcopy : app.LetThrough copy past)
      (hwork : copy.Works past call) : Undertakes app past call

end CompositeApp

namespace Pass

section Work

variable {app : CompositeApp} {kind : ChildKind} {target : Target} {past : List Exchange}
  {possible : Call → Reply → Prop}

theorem lookup_obeys (hvalid : app.validate = .ok ()) (htarget : target ∈ app.targets kind.scope) :
    (lookup (app.targetKey kind target)).Obeys possible app.Works past fun result later =>
      ∀ observed, result = .ok observed → ∃ stored, observed = stored.bind (·.child?) ∧
        later.getLast? = some (.called (.get (app.targetKey kind target)) (.ok stored)) := by
  refine (Obeys.perform (Q := fun reply later =>
    later.getLast? = some (.called (.get (app.targetKey kind target)) reply))
    (.lookup hvalid kind target htarget) fun _ _ => List.getLast?_concat).bind ?_
  intro reply later hreply observed hobserved
  obtain ⟨stored, rfl, hchild⟩ := map_eq_ok.1 hobserved
  exact ⟨stored, hchild.symm, hreply⟩

theorem carryOut_obeys {key : ObjectKey} {action : Action}
    (hworks : ∀ write, action.write? key = some write → app.Works past write) :
    (carryOut key action).Obeys possible app.Works past fun _ _ => True := by
  unfold carryOut
  dsimp only
  split
  · trivial
  · rename_i write hwrite
    refine (Obeys.perform (Q := fun _ _ => True) (hworks write hwrite)
      fun _ _ => trivial).bind ?_
    intro reply later _
    cases reply <;> trivial

theorem converge_obeys (hvalid : app.validate = .ok ())
    (htarget : target ∈ app.targets kind.scope) :
    (converge app kind target).Obeys possible app.Works past fun _ _ => True := by
  unfold converge
  rw [← CompositeApp.targetKey]
  refine (lookup_obeys hvalid htarget).bind ?_
  rintro (e | observed) later hseen
  · trivial
  obtain ⟨stored, rfl, hlast⟩ := hseen observed rfl
  refine Obeys.ofAborting.bind ?_
  intro desired last hpost
  obtain ⟨hdesired, rfl⟩ := hpost
  rw [Action.decide_eq_choice hdesired]
  cases hchoice : app.choice kind target stored with
  | error e => trivial
  | ok action =>
    exact carryOut_obeys fun write hwrite =>
      .write hvalid kind target stored action write htarget hlast hchoice hwrite

theorem convergeAll_obeys (hvalid : app.validate = .ok ()) {targets : List Target}
    (htargets : ∀ target ∈ targets, target ∈ app.targets kind.scope) :
    (convergeAll app kind targets).Obeys possible app.Works past fun _ _ => True := by
  induction targets generalizing past with
  | nil => trivial
  | cons target rest ih =>
    refine (converge_obeys hvalid (htargets target List.mem_cons_self)).bind ?_
    intro result later _
    refine (ih fun t ht => htargets t (List.mem_cons_of_mem target ht)).bind ?_
    intro results last _
    trivial

theorem settleKind_obeys {p : Progress} {results : List (Except ApplyError Change)} :
    (settleKind app p results).Obeys possible app.Works past fun _ _ => True := by
  unfold settleKind
  dsimp only
  split
  · trivial
  · split <;> trivial

theorem settleStatus_obeys {p : Progress} {status : AppStatus} {error : Option ApplyError} :
    (settleStatus app p status error).Obeys possible app.Works past fun _ _ => True := by
  cases error <;> trivial

theorem observeAll_obeys (hvalid : app.validate = .ok ()) {targets : List Target}
    {status : AppStatus} (htargets : ∀ target ∈ targets, target ∈ app.targets kind.scope) :
    (observeAll app kind status targets).Obeys possible app.Works past fun _ _ => True := by
  induction targets generalizing past status with
  | nil => trivial
  | cons target rest ih =>
    unfold observeAll
    rw [← CompositeApp.targetKey]
    refine (lookup_obeys hvalid (htargets target List.mem_cons_self)).bind ?_
    intro result later _
    cases result with
    | error e => trivial
    | ok observed => exact ih fun t ht => htargets t (List.mem_cons_of_mem target ht)

theorem updateStatus_obeys (hvalid : app.validate = .ok ()) {status : AppStatus} :
    (updateStatus app kind status).Obeys possible app.Works past fun _ _ => True := by
  unfold updateStatus
  split
  · exact observeAll_obeys hvalid fun _ htarget => htarget
  · trivial

theorem lookAfter_obeys (hvalid : app.validate = .ok ()) {p : Progress} :
    (lookAfter app p kind).Obeys possible app.Works past fun _ _ => True := by
  refine (convergeAll_obeys hvalid fun _ htarget => htarget).bind fun results later _ => ?_
  refine settleKind_obeys.bind fun settled later _ => ?_
  exact (updateStatus_obeys hvalid).bind fun reported last _ => settleStatus_obeys

theorem lookAfterAll_obeys (hvalid : app.validate = .ok ()) {p : Progress}
    {kinds : List ChildKind} :
    (lookAfterAll app p kinds).Obeys possible app.Works past fun _ _ => True := by
  induction kinds generalizing past p with
  | nil => trivial
  | cons kind rest ih => exact (lookAfter_obeys hvalid).bind fun _ _ _ => ih

theorem writeStatus_obeys {status : AppStatus} :
    (writeStatus app status).Obeys possible app.Works past fun _ _ => True := by
  unfold writeStatus
  split
  · trivial
  · refine (Obeys.perform (Q := fun _ _ => True) (.report status) fun _ _ => trivial).bind ?_
    intro reply later _
    rcases reply with ⟨_ | _⟩ | _ <;> trivial

theorem bringInLine_obeys (hvalid : app.validate = .ok ()) :
    (bringInLine app).Obeys possible app.Works past fun _ _ => True := by
  have hreport : ∀ (p : Progress) (outcome : PassOutcome) later,
      (writeStatus app (p.finalStatus app) >>= fun write => pure (conclude write outcome)).Obeys
        possible app.Works later fun _ _ => True :=
    fun p outcome later => writeStatus_obeys.bind fun _ _ _ => trivial
  unfold bringInLine
  refine (lookAfterAll_obeys hvalid).bind fun p later _ => ?_
  dsimp only
  split
  · exact hreport p _ later
  · exact hreport p _ later

theorem work_obeys (app : CompositeApp) (past : List Exchange) :
    (work app).Obeys possible app.Works past fun _ _ => True := by
  unfold work
  split
  · rename_i hvalid
    exact bringInLine_obeys hvalid
  · exact writeStatus_obeys.bind fun _ _ _ => trivial
  · trivial

end Work

section Gate

variable {app : CompositeApp} {past : List Exchange} {rule : List Exchange → Call → Prop}

theorem persist_obeys {written : CompositeApp} (hrule : rule past (.replace (.app written))) :
    (persist written).Obeys Call.Admits rule past fun result later =>
      ∀ copy, result = .ok (some copy) → copy.CopyOf written ∧
        .called (.replace (.app written)) (.ok (some (.app copy))) ∈ later := by
  refine (Obeys.perform (Q := fun reply later => Call.Admits (.replace (.app written)) reply ∧
    .called (.replace (.app written)) reply ∈ later) hrule
    fun reply hreply => ⟨hreply, by simp⟩).bind ?_
  intro reply later hpost
  obtain ⟨hadmits, hcalled⟩ := hpost
  cases reply with
  | error e => cases e <;> exact fun _ hresult => absurd hresult (by simp)
  | ok reply =>
    obtain ⟨stored, version, rfl⟩ := hadmits
    obtain ⟨made, hmade, hmadeOf⟩ := written.exists_replacement stored version
    rw [hmade] at hcalled ⊢
    intro copy hresult
    obtain rfl : made = copy := Option.some.inj (Except.ok.inj hresult)
    exact ⟨hmadeOf, hcalled⟩

/-- The gate writes no more than the finalizer, and lets through none but a live app with it. -/
theorem gate_obeys (app : CompositeApp) :
    (gate app).Obeys Call.Admits app.Gates [] fun result later =>
      ∀ copy, result = .ok (.proceed copy) → app.LetThrough copy later := by
  unfold gate
  split
  · rename_i hstate
    refine (persist_obeys (.register hstate)).bind ?_
    rintro (e | _ | copy) later hread copy' hresult
    · exact absurd hresult (by simp [Except.map])
    · exact absurd hresult (by simp [Except.map])
    · obtain rfl : copy = copy' := Gate.proceed.inj (Except.ok.inj hresult)
      obtain ⟨hcopy, hcalled⟩ := hread copy rfl
      have hlive := (FinalizerState.of_eq_unregistered.1 hstate).2
      exact ⟨hlive, Or.inr hcalled, hcopy.trans ⟨_, _, _, _, _, _, rfl⟩⟩
  · rename_i hstate
    intro copy hresult
    obtain rfl : app = copy := Gate.proceed.inj (Except.ok.inj hresult)
    obtain ⟨hheld, hlive⟩ := FinalizerState.of_eq_registered.1 hstate
    exact ⟨hlive, Or.inl ⟨hheld, rfl⟩, .refl app⟩
  · rename_i hstate
    rintro (reason | _)
    · exact fun _ hresult => absurd hresult (by simp)
    · refine (persist_obeys (.release hstate rfl)).bind ?_
      rintro (e | _ | copy) later hread copy' hresult <;>
        exact absurd hresult (by simp [Except.map])
  · exact fun _ hresult => absurd hresult (by simp)

/-- A pass makes none but these calls. -/
theorem reconcile_undertakes (app : CompositeApp) :
    (reconcile app).Obeys Call.Admits app.Undertakes [] fun _ _ => True := by
  refine ((gate_obeys app).imp fun _ _ _ hgate => .gate hgate).bind ?_
  intro result later hproceed
  rcases result with e | copy | _ | _ | _
  · trivial
  · have hcopy := hproceed copy rfl
    refine (work_obeys copy later).imp fun last call hlater hwork => ?_
    exact .work copy call (hcopy.later hlater) hwork
  · trivial
  · trivial
  · trivial

end Gate

end Pass

namespace CompositeApp

def ReadCopy (app copy : CompositeApp) (past : List Exchange) : Prop :=
  copy.CopyOf app ∧ (copy = app ∨ ∃ r, .called (.replace r) (.ok (some (.app copy))) ∈ past)

theorem LetThrough.readCopy {app copy : CompositeApp} {past : List Exchange}
    (h : app.LetThrough copy past) : app.ReadCopy copy past :=
  ⟨h.copyOf, h.held.imp (·.2) fun hcalled => ⟨_, hcalled⟩⟩

inductive Licensed (app : CompositeApp) (past : List Exchange) : Call → Prop where
  | lookup (kind : ChildKind) (target : Target) (htarget : target ∈ app.targets kind.scope) :
      Licensed app past (.get (app.targetKey kind target))
  | create (kind : ChildKind) (target : Target) (object : Child)
      (htarget : target ∈ app.targets kind.scope)
      (hkey : (Resource.child object).key = app.targetKey kind target)
      (hfinite : object.isFinite = true) :
      Licensed app past (.create (.child object))
  | update (kind : ChildKind) (target : Target) (seen object : Child)
      (htarget : target ∈ app.targets kind.scope)
      (hkey : (Resource.child object).key = app.targetKey kind target)
      (hseen : past.getLast? =
        some (.called (.get (app.targetKey kind target)) (.ok (some (.child seen)))))
      (hlive : seen.metadata.isTerminating = false)
      (hversion : object.metadata.resourceVersion = seen.metadata.resourceVersion)
      (hfinite : object.isFinite = true) :
      Licensed app past (.replace (.child object))
  | delete (kind : ChildKind) (target : Target) (observed : Option Child)
      (htarget : target ∈ app.targets kind.scope)
      (hobsolete : kind.desired app target.entry observed = .ok .absent) :
      Licensed app past (.delete (app.targetKey kind target))
  | register : Licensed app past (.replace (.app app.withFinalizer))
  | release (hgoing : FinalizerState.of app = .finalizing) :
      Licensed app past (.replace (.app app.withoutFinalizer))
  | report (copy : CompositeApp) (status : AppStatus) (hcopy : app.ReadCopy copy past) :
      Licensed app past (.replaceStatus (.app { copy with status := some status }))

def Touches (app : CompositeApp) (key : ObjectKey) : Prop :=
  key = app.storeKey ∨ ∃ kind, ∃ target ∈ app.targets kind.scope, key = app.targetKey kind target

theorem Licensed.touches {app : CompositeApp} {past : List Exchange} {call : Call}
    (h : app.Licensed past call) : app.Touches call.key := by
  cases h with
  | lookup kind target htarget | delete kind target _ htarget =>
    exact Or.inr ⟨kind, target, htarget, rfl⟩
  | create kind target _ htarget hkey | update kind target _ _ htarget hkey =>
    exact Or.inr ⟨kind, target, htarget, hkey⟩
  | register | release => exact Or.inl rfl
  | report _ _ hcopy => exact Or.inl hcopy.1.storeKey_eq

variable {app copy : CompositeApp} {past : List Exchange} {call : Call}

/-- The work on a copy of the app is what a pass over the app may do. -/
theorem Works.licensed (h : copy.Works past call) (hcopy : app.LetThrough copy past) :
    app.Licensed past call := by
  have hof := hcopy.copyOf
  cases h with
  | lookup hvalid kind target htarget =>
    rw [hof.targets_eq] at htarget
    rw [hof.targetKey_eq]
    exact .lookup kind target htarget
  | report status => exact .report copy status hcopy.readCopy
  | write hvalid kind target stored action _ htarget hseen hchoice hwrite =>
    have hverdict := copy.choice_verdict kind target stored
    have hdesired := kind.desired_eq_wanted hvalid target.entry (stored.bind (·.child?))
    rw [hchoice] at hverdict
    have htarget' : target ∈ app.targets kind.scope := by rwa [← hof.targets_eq]
    rw [hof.targetKey_eq] at hseen hwrite
    cases hverdict with
    | unmanaged | gone | right => exact absurd hwrite (by simp [Action.write?])
    | obsolete seen hwanted =>
      obtain rfl := Option.some.inj hwrite
      refine .delete kind target (stored.bind (·.child?)) htarget' ?_
      rw [← hof.desired_eq, hdesired, hwanted]
    | missing wanted claimed hwanted _ hclaim =>
      obtain rfl := Option.some.inj hwrite
      rw [hwanted] at hdesired
      refine .create kind target claimed htarget' ?_ ?_
      · rw [key_of_claim htarget hdesired hclaim, hof.targetKey_eq]
      · exact isFinite_of_wanted hvalid htarget hdesired hclaim
    | drifted wanted seen claimed hwanted hobserved hlive hclaim =>
      obtain rfl := Option.some.inj hwrite
      rw [hwanted] at hdesired
      obtain ⟨r, rfl, hr⟩ := Option.bind_eq_some_iff.1 hobserved
      obtain rfl := Resource.child?_eq_some.1 hr
      have hkey : (Resource.child (claimed.preparedUpdate seen)).key =
          copy.targetKey kind target :=
        key_of_preparedUpdate htarget hdesired hclaim
      rw [hof.targetKey_eq] at hkey
      refine .update kind target seen _ htarget' hkey hseen hlive ?_ ?_
      · rw [Child.metadata_preparedUpdate]
      · rw [Child.isFinite_preparedUpdate]
        exact isFinite_of_wanted hvalid htarget hdesired hclaim

theorem Undertakes.licensed (h : app.Undertakes past call) : app.Licensed past call := by
  cases h with
  | work copy _ hcopy hwork => exact hwork.licensed hcopy
  | gate hgate =>
    cases hgate with
    | register => exact .register
    | release hstate => exact .release hstate

/-- An app that is stored is stored under none of the keys of targets. -/
theorem targetKey_ne_of_keyed {c : Cluster} {key : ObjectKey} {a : CompositeApp}
    (hkeyed : c.Keyed) (ha : c.get? key = some (.app a)) (kind : ChildKind) (target : Target) :
    app.targetKey kind target ≠ key := by
  intro hsame
  obtain rfl := hsame
  obtain ⟨made, hmade⟩ := Cluster.exists_child_of_get? hkeyed ha
  exact absurd hmade (by simp)

theorem Gates.key_eq (h : app.Gates past call) : call.key = app.storeKey := by
  cases h with
  | register => rfl
  | release => rfl

/-- A replace of an app is a write of the gate. -/
theorem Undertakes.gates {written : CompositeApp}
    (h : app.Undertakes past (.replace (.app written))) :
    app.Gates past (.replace (.app written)) := by
  cases h with
  | gate hgate => exact hgate
  | work copy _ _ hwork =>
    cases hwork with
    | write _ _ _ _ action _ _ _ _ hwrite =>
      cases action <;> exact absurd hwrite (by simp [Action.write?])

/-- A pass over an app that is not on its way out releases nothing by a replace: what it replaces
was live at the lookup just before, and the app itself is held by the finalizer. -/
theorem Licensed.isReleased_eq_false {c : Cluster} {r stored : Resource}
    (h : app.Licensed past (.replace r)) (hstate : FinalizerState.of app ≠ .finalizing)
    (hc : c.Current past) (hstored : c.get? r.key = some stored) (version : Nat) :
    (Cluster.replacement stored r version).metadata.isReleased = false := by
  rw [Cluster.metadata_replacement, ObjectMeta.isReleased, Bool.and_eq_false_iff]
  cases h with
  | update kind target seen object _ hkey hseen hlive =>
    rw [hkey, hc.recent _ _ hseen] at hstored
    obtain rfl := Option.some.inj hstored
    exact Or.inl hlive
  | register => exact Or.inr (by simp [withFinalizer, withFinalizers, Resource.metadata,
      ObjectMeta.finalizerList])
  | release hgoing => exact absurd hgoing hstate

end CompositeApp

/-- A pass makes none but the calls it may make. -/
theorem Pass.reconcile_obeys (app : CompositeApp) :
    (reconcile app).Obeys Call.Admits app.Licensed [] fun _ _ => True :=
  (reconcile_undertakes app).imp fun _ _ _ h => h.licensed

theorem World.reconcile_invariant {w : World} {app : CompositeApp}
    {I : List Exchange → Cluster → Prop} (elapsed : Duration)
    (hanswer : ∀ past c call reply after, app.Licensed past call → I past c →
      c.Answers call reply after → I (past ++ [.called call reply]) after)
    (hhook : ∀ past c a result, I past c → I (past ++ [.hooked a result]) c)
    (hw : I [] w.store.cluster) :
    ∃ later, I later (w.reconcile app elapsed).2.store.cluster :=
  (Pass.reconcile_obeys app).run_invariant World.handler_serves
    (s := { w with changes := [] }) hanswer hhook hw

end CompositeApps
