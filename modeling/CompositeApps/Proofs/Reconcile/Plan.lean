import CompositeApps.Proofs.App.FiniteNumbers
import CompositeApps.Proofs.Cluster.Effect
import CompositeApps.Reconcile.Converge

/-!
What is to be done about the object of a target as a function of what is stored for it, and what is
stored for it once that is done. Then nothing is left to be done.
-/

namespace CompositeApps

namespace CompositeApp

def targetKey (app : CompositeApp) (kind : ChildKind) (target : Target) : ObjectKey :=
  ⟨.child kind, app.namespaceName, target.name⟩

def storeKey (app : CompositeApp) : ObjectKey :=
  (Resource.app app).key

theorem targetKey_ne_storeKey (app other : CompositeApp) (kind : ChildKind) (target : Target) :
    app.targetKey kind target ≠ other.storeKey := by
  intro hsame
  exact Kind.noConfusion (congrArg ObjectKey.kind hsame)

end CompositeApp

def ChildKind.wanted (kind : ChildKind) (app : CompositeApp) (entry : Option VersionEntry)
    (observed : Option Child) : Desired Child :=
  (kind.desired app entry observed).toOption.getD .unmanaged

theorem ChildKind.desired_eq_wanted {app : CompositeApp} (h : app.validate = .ok ())
    (kind : ChildKind) (entry : Option VersionEntry) (observed : Option Child) :
    kind.desired app entry observed = .ok (kind.wanted app entry observed) := by
  obtain ⟨desired, hdesired⟩ := kind.exists_ok_desired h entry observed
  rw [wanted, hdesired]
  rfl

namespace Resource

theorem child?_eq_some {r : Resource} {c : Child} : r.child? = some c ↔ r = child c := by
  cases r <;> simp [child?]

end Resource

namespace CompositeApp

theorem controllerReference?_eq_some {app : CompositeApp} {r : OwnerReference}
    (h : app.controllerReference? = some r) :
    app.metadata.uid = some r.uid ∧ r.controller = some true := by
  obtain ⟨name, -, h⟩ := Option.bind_eq_some_iff.1 h
  obtain ⟨uid, huid, h⟩ := Option.bind_eq_some_iff.1 h
  obtain rfl := Option.some.inj h
  exact ⟨huid, rfl⟩

theorem claim_eq_ok {app : CompositeApp} {name : String} {object claimed : Child}
    (h : app.claim name object = .ok claimed) :
    ∃ r, app.controllerReference? = some r ∧
      claimed = object.withMetadata { object.metadata with ownerReferences := some [r] } := by
  unfold claim at h
  split at h
  · rename_i r hr
    exact ⟨r, hr, (Except.ok.inj h).symm⟩
  · exact absurd h (by simp)

theorem controls_of_owners {app : CompositeApp} {r : OwnerReference} {object : Child}
    (hr : app.controllerReference? = some r)
    (howners : object.metadata.ownerReferences = some [r]) : app.controls object = true := by
  obtain ⟨huid, hcontroller⟩ := controllerReference?_eq_some hr
  simp [controls, huid, ObjectMeta.owners, howners, hcontroller]

/-- What is to be done about a target, given what was found. -/
def choice (app : CompositeApp) (kind : ChildKind) (target : Target) (found : Option Resource) :
    Except ApplyError Action :=
  Action.decide app target.name (kind.wanted app target.entry (found.bind (·.child?)))
    (found.bind (·.child?))

/-- What is to be done about a target, given what is stored for it. -/
def plan (app : CompositeApp) (kind : ChildKind) (target : Target) (stored : Option Resource) :
    Except ApplyError Action :=
  match Reply.ofStored stored with
  | .ok found => app.choice kind target found
  | .error e => .error (.store kind.name target.name e)

end CompositeApp

/-- What is decided about an object is what the app chooses. -/
theorem Action.decide_eq_choice {app : CompositeApp} {kind : ChildKind} {target : Target}
    {stored : Option Resource} {desired : Desired Child}
    (h : kind.desired app target.entry (stored.bind (·.child?)) = .ok desired) :
    Action.decide app target.name desired (stored.bind (·.child?)) =
      app.choice kind target stored := by
  rw [CompositeApp.choice, ChildKind.wanted, h]
  rfl

namespace Cluster

theorem exists_newborn (version : Nat) (c : Child) :
    ∃ made, newborn version (.child c) = .child made ∧ made.Mirrors c ∧
      made.metadata.ownerReferences = c.metadata.ownerReferences ∧
      made.metadata.deletionTimestamp = c.metadata.deletionTimestamp ∧
      made.isFinite = c.isFinite := by
  have hmetadata := metadata_newborn version (.child c)
  refine ⟨_, rfl, .trans (.withMetadata rfl) (.withMetadata rfl), ?_, ?_, ?_⟩
  · exact congrArg (·.ownerReferences) hmetadata
  · exact congrArg (·.deletionTimestamp) hmetadata
  · exact isFinite_newborn version (.child c)

theorem exists_replacement (stored : Resource) (c : Child) (version : Nat) :
    ∃ made, replacement stored (.child c) version = .child made ∧ made.Mirrors c ∧
      made.metadata.ownerReferences = c.metadata.ownerReferences ∧
      made.metadata.deletionTimestamp = stored.metadata.deletionTimestamp ∧
      made.isFinite = c.isFinite := by
  have hmetadata := metadata_replacement stored (.child c) version
  have hfinite := isFinite_replacement stored (.child c) version
  obtain ⟨reported, hreported, hmirrors⟩ := c.exists_withStatusOf stored
  unfold replacement at hmetadata hfinite ⊢
  rw [hreported] at hmetadata hfinite ⊢
  refine ⟨_, rfl, .trans (.withMetadata rfl) hmirrors, ?_, ?_, hfinite⟩
  · exact congrArg (·.ownerReferences) hmetadata
  · exact congrArg (·.deletionTimestamp) hmetadata

theorem exists_doomed (version : Nat) (c : Child) :
    ∃ made, doomed version (.child c) = .child made ∧ made.metadata.isTerminating = true ∧
      made.isFinite = c.isFinite :=
  ⟨_, rfl, by simp [ObjectMeta.isTerminating], isFinite_doomed version (.child c)⟩

end Cluster

/-- What is stored before and after an action. -/
inductive Action.Yields : Action → Option Resource → Option Resource → Prop where
  | kept (stored : Option Resource) : Yields .keep stored stored
  | created (object : Child) (version : Nat) :
      Yields (.create object) none (some (Cluster.newborn version (.child object)))
  | updated (object : Child) (stored : Resource) (version : Nat) :
      Yields (.update object) (some stored)
        (some (Cluster.replacement stored (.child object) version))
  | deleted (stored : Resource) (hfree : stored.metadata.finalizerList.isEmpty = true) :
      Yields .delete (some stored) none
  | doomed (stored : Resource) (version : Nat)
      (hheld : stored.metadata.finalizerList.isEmpty = false) :
      Yields .delete (some stored) (some (Cluster.doomed version stored))

/-- All that can be decided about a target, and when. -/
inductive Verdict (app : CompositeApp) (kind : ChildKind) (target : Target)
    (observed : Option Child) : Except ApplyError Action → Prop where
  | unmanaged (hwanted : kind.wanted app target.entry observed = .unmanaged) :
      Verdict app kind target observed (.ok .keep)
  | gone (hwanted : kind.wanted app target.entry observed = .absent)
      (hgone : ∀ seen, observed = some seen → seen.metadata.isTerminating = true) :
      Verdict app kind target observed (.ok .keep)
  | obsolete (seen : Child) (hwanted : kind.wanted app target.entry observed = .absent)
      (hseen : observed = some seen) (hlive : seen.metadata.isTerminating = false) :
      Verdict app kind target observed (.ok .delete)
  | missing (wanted claimed : Child)
      (hwanted : kind.wanted app target.entry observed = .present wanted)
      (hmissing : observed = none) (hclaim : app.claim target.name wanted = .ok claimed) :
      Verdict app kind target observed (.ok (.create claimed))
  | going (wanted seen : Child)
      (hwanted : kind.wanted app target.entry observed = .present wanted)
      (hseen : observed = some seen) (hgoing : seen.metadata.isTerminating = true) :
      Verdict app kind target observed (.error (.terminating wanted.kind.name target.name))
  | right (wanted seen : Child)
      (hwanted : kind.wanted app target.entry observed = .present wanted)
      (hseen : observed = some seen) (hlive : seen.metadata.isTerminating = false)
      (hagrees : (Projection.of wanted).agrees (Projection.of seen) = true)
      (hcontrols : app.controls seen = true) : Verdict app kind target observed (.ok .keep)
  | drifted (wanted seen claimed : Child)
      (hwanted : kind.wanted app target.entry observed = .present wanted)
      (hseen : observed = some seen) (hlive : seen.metadata.isTerminating = false)
      (hclaim : app.claim target.name wanted = .ok claimed) :
      Verdict app kind target observed (.ok (.update (claimed.preparedUpdate seen)))
  | unclaimed (wanted : Child)
      (hwanted : kind.wanted app target.entry observed = .present wanted)
      (hnone : app.controllerReference? = none) :
      Verdict app kind target observed
        (.error (.ownerReference wanted.kind.name target.name app.name))

namespace CompositeApp

variable {app : CompositeApp} {kind : ChildKind} {target : Target}

theorem claim_cases (app : CompositeApp) (name : String) (object : Child) :
    (∃ claimed, app.claim name object = .ok claimed) ∨
      app.controllerReference? = none ∧
        app.claim name object = .error (.ownerReference object.kind.name name app.name) := by
  unfold claim
  split
  · exact Or.inl ⟨_, rfl⟩
  · rename_i hnone
    exact Or.inr ⟨hnone, rfl⟩

theorem choice_verdict (app : CompositeApp) (kind : ChildKind) (target : Target)
    (found : Option Resource) :
    Verdict app kind target (found.bind (·.child?)) (app.choice kind target found) := by
  unfold choice
  generalize found.bind (·.child?) = observed
  cases hwanted : kind.wanted app target.entry observed with
  | unmanaged => exact Verdict.unmanaged hwanted
  | absent =>
    cases observed with
    | none => exact Verdict.gone hwanted (by simp)
    | some seen =>
      cases hgoing : seen.metadata.isTerminating with
      | true =>
        simp only [Action.decide, Action.forAbsent, hgoing]
        exact Verdict.gone hwanted (by simpa using hgoing)
      | false =>
        simp only [Action.decide, Action.forAbsent, hgoing]
        exact Verdict.obsolete seen hwanted rfl hgoing
  | present wanted =>
    simp only [Action.decide]
    cases observed with
    | none =>
      rcases app.claim_cases target.name wanted with ⟨claimed, hclaim⟩ | ⟨hnone, hclaim⟩
      · simp only [Action.forPresent, hclaim]
        exact Verdict.missing wanted claimed hwanted rfl hclaim
      · simp only [Action.forPresent, hclaim]
        exact Verdict.unclaimed wanted hwanted hnone
    | some seen =>
      simp only [Action.forPresent]
      split
      · rename_i hgoing
        exact Verdict.going wanted seen hwanted rfl hgoing
      · rename_i hlive
        have hlive : seen.metadata.isTerminating = false := by simpa using hlive
        split
        · rename_i hright
          obtain ⟨hagrees, hcontrols⟩ := Bool.and_eq_true_iff.1 hright
          exact Verdict.right wanted seen hwanted rfl hlive hagrees hcontrols
        · rcases app.claim_cases target.name wanted with ⟨claimed, hclaim⟩ | ⟨hnone, hclaim⟩
          · rw [hclaim]
            exact Verdict.drifted wanted seen claimed hwanted rfl hlive hclaim
          · rw [hclaim]
            exact Verdict.unclaimed wanted hwanted hnone

theorem plan_eq_ok {stored : Option Resource} {action : Action} :
    app.plan kind target stored = .ok action ↔
      stored.all (·.isFinite) = true ∧ app.choice kind target stored = .ok action := by
  unfold plan
  split
  · rename_i found hread
    obtain ⟨rfl, hfinite⟩ := Reply.ofStored_eq_ok.1 hread
    simp only [hfinite, true_and]
  · rename_i e hread
    have hunread : ¬ stored.all (·.isFinite) = true := by
      intro hfinite
      rw [Reply.ofStored_eq_ok.2 ⟨rfl, hfinite⟩] at hread
      exact absurd hread (by simp)
    simp only [hunread, reduceCtorEq, false_and]

theorem plan_of_isFinite {stored : Option Resource} (h : stored.all (·.isFinite) = true) :
    app.plan kind target stored = app.choice kind target stored := by
  rw [plan, Reply.ofStored_eq_ok.2 ⟨rfl, h⟩]

theorem plan_of_unread {stored : Option Resource} {e : StoreError}
    (h : Reply.ofStored stored = .error e) :
    app.plan kind target stored = .error (.store kind.name target.name e) := by
  rw [plan, h]

theorem verdict_of_plan {stored : Option Resource} {action : Action}
    (h : app.plan kind target stored = .ok action) :
    Verdict app kind target (stored.bind (·.child?)) (.ok action) := by
  rw [← (plan_eq_ok.1 h).2]
  exact app.choice_verdict kind target stored

/-- An object that was claimed for an app that passes its checks has finite numbers only. -/
theorem isFinite_of_wanted {wanted claimed : Child} {observed : Option Child}
    (hvalid : app.validate = .ok ()) (htarget : target ∈ app.targets kind.scope)
    (hwanted : kind.desired app target.entry observed = .ok (.present wanted))
    (hclaim : app.claim target.name wanted = .ok claimed) : claimed.isFinite = true := by
  obtain ⟨r, -, rfl⟩ := claim_eq_ok hclaim
  rw [Child.isFinite_withMetadata]
  exact ChildKind.isFinite_of_desired hvalid htarget hwanted

/-- So has what is chosen to be written for it. -/
theorem isFinite_of_choice {found : Option Resource} {action : Action} {object : Child}
    (hvalid : app.validate = .ok ()) (htarget : target ∈ app.targets kind.scope)
    (hchoice : app.choice kind target found = .ok action)
    (hobject : action = .create object ∨ action = .update object) : object.isFinite = true := by
  have hverdict := app.choice_verdict kind target found
  have hdesired := kind.desired_eq_wanted hvalid target.entry (found.bind (·.child?))
  rw [hchoice] at hverdict
  cases hverdict with
  | unmanaged | gone | right | obsolete => rcases hobject with h | h <;> exact absurd h (by simp)
  | missing wanted claimed hwanted _ hclaim =>
    rw [hwanted] at hdesired
    rcases hobject with h | h
    · obtain rfl := Action.create.inj h
      exact isFinite_of_wanted hvalid htarget hdesired hclaim
    · exact absurd h (by simp)
  | drifted wanted seen claimed hwanted _ _ hclaim =>
    rw [hwanted] at hdesired
    rcases hobject with h | h
    · exact absurd h (by simp)
    · obtain rfl := Action.update.inj h
      rw [Child.isFinite_preparedUpdate]
      exact isFinite_of_wanted hvalid htarget hdesired hclaim

/-- An object that was claimed for the app and then stored is as the app wants it. -/
theorem plan_of_claimed {wanted claimed made : Child} {observed : Option Child}
    (hwanted : kind.desired app target.entry observed = .ok (.present wanted))
    (hclaim : app.claim target.name wanted = .ok claimed) (hmirrors : made.Mirrors claimed)
    (howners : made.metadata.ownerReferences = claimed.metadata.ownerReferences)
    (hlive : made.metadata.isTerminating = false) (hfinite : made.isFinite = true) :
    app.plan kind target (some (.child made)) = .ok .keep := by
  obtain ⟨r, hr, rfl⟩ := claim_eq_ok hclaim
  have hmade : made.Mirrors wanted := hmirrors.trans (.withMetadata rfl)
  have hagain : kind.wanted app target.entry (some made) = .present wanted := by
    rw [ChildKind.wanted, ChildKind.desired_of_mirrors hwanted hmade]
    rfl
  have hagrees : (Projection.of wanted).agrees (Projection.of made) = true := by
    rw [hmade.projection]
    exact Projection.agrees_self _
  have hcontrols : app.controls made = true := by
    refine controls_of_owners hr (howners.trans ?_)
    rw [Child.metadata_withMetadata]
  refine plan_eq_ok.2 ⟨hfinite, ?_⟩
  simp only [choice, Option.bind_some, Resource.child?, hagain, Action.decide, Action.forPresent,
    hlive, hagrees, hcontrols]
  rfl

/-- Once what is to be done is done, nothing is left to be done. -/
theorem plan_of_yields {before after : Option Resource} {action : Action}
    (hvalid : app.validate = .ok ()) (htarget : target ∈ app.targets kind.scope)
    (hplan : app.plan kind target before = .ok action) (hyields : action.Yields before after) :
    app.plan kind target after = .ok .keep := by
  have hdesired := kind.desired_eq_wanted hvalid target.entry (before.bind (·.child?))
  cases verdict_of_plan hplan with
  | unmanaged | gone | right =>
    cases hyields
    exact hplan
  | obsolete seen hwanted hseen hlive =>
    rw [hwanted] at hdesired
    have hagain : ∀ observed, kind.wanted app target.entry observed = .absent := by
      intro observed
      rw [ChildKind.wanted, ChildKind.desired_absent hdesired observed]
      rfl
    cases hyields with
    | deleted =>
      refine plan_eq_ok.2 ⟨rfl, ?_⟩
      simp only [choice, Option.bind_none, hagain, Action.decide, Action.forAbsent]
    | doomed stored version =>
      obtain rfl := Resource.child?_eq_some.1 hseen
      obtain ⟨made, hmade, hgoing, hfinite⟩ := Cluster.exists_doomed version seen
      rw [hmade]
      refine plan_eq_ok.2 ⟨hfinite.trans (plan_eq_ok.1 hplan).1, ?_⟩
      simp only [choice, Option.bind_some, Resource.child?, hagain, Action.decide,
        Action.forAbsent, hgoing, if_true]
  | missing wanted claimed hwanted hmissing hclaim =>
    rw [hwanted] at hdesired
    cases hyields with
    | created object version =>
      obtain ⟨made, hmade, hmirrors, howners, hdeletion, hfinite⟩ :=
        Cluster.exists_newborn version claimed
      obtain ⟨r, -, hclaimed⟩ := claim_eq_ok hclaim
      have hlive : made.metadata.isTerminating = false := by
        have hfresh := (ChildKind.desired_present htarget hdesired).2
        rw [ObjectMeta.isTerminating, hdeletion, hclaimed, Child.metadata_withMetadata, hfresh]
        rfl
      rw [hmade]
      exact plan_of_claimed hdesired hclaim hmirrors howners hlive
        (hfinite.trans (isFinite_of_wanted hvalid htarget hdesired hclaim))
  | drifted wanted seen claimed hwanted hseen hlive hclaim =>
    rw [hwanted] at hdesired
    cases hyields with
    | updated object stored version =>
      obtain rfl := Resource.child?_eq_some.1 hseen
      obtain ⟨made, hmade, hmirrors, howners, hdeletion, hfinite⟩ :=
        Cluster.exists_replacement (.child seen) (claimed.preparedUpdate seen) version
      have hmadeLive : made.metadata.isTerminating = false := by
        rw [ObjectMeta.isTerminating, hdeletion]
        exact hlive
      rw [Child.metadata_preparedUpdate] at howners
      rw [Child.isFinite_preparedUpdate] at hfinite
      rw [hmade]
      exact plan_of_claimed hdesired hclaim (hmirrors.trans (.preparedUpdate claimed seen)) howners
        hmadeLive (hfinite.trans (isFinite_of_wanted hvalid htarget hdesired hclaim))

/-- What is stored for a target of which nothing is left to be done. -/
theorem eq_child_of_plan_eq_keep {stored : Option Resource} {wanted : Child}
    (hplan : app.plan kind target stored = .ok .keep)
    (hwanted : kind.wanted app target.entry (stored.bind (·.child?)) = .present wanted) :
    ∃ made, stored = some (.child made) ∧ made.metadata.isTerminating = false ∧
      app.controls made = true ∧ (Projection.of wanted).agrees (Projection.of made) = true := by
  cases verdict_of_plan hplan with
  | unmanaged h | gone h => exact absurd (h.symm.trans hwanted) (by simp)
  | right w made h hmade hlive hagrees hcontrols =>
    obtain rfl := Desired.present.inj (h.symm.trans hwanted)
    obtain ⟨r, rfl, hr⟩ := Option.bind_eq_some_iff.1 hmade
    obtain rfl := Resource.child?_eq_some.1 hr
    exact ⟨made, rfl, hlive, hcontrols, hagrees⟩

end CompositeApp

end CompositeApps
