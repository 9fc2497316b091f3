import CompositeApps.Proofs.Cluster.Confined
import CompositeApps.Proofs.Reconcile.Plan
import CompositeApps.Proofs.Reconcile.Run
import CompositeApps.Reconcile.World

/-!
What a pass does to the objects of one kind in a world without faults: each target is brought to
what the app wants of it, one after the other, and they do not disturb each other. As many writes
are issued as are reported.
-/

namespace CompositeApps

namespace Change

theorem writes_append (a b : List Change) : writes (a ++ b) = writes a + writes b := by
  simp only [writes, List.filter_append, List.length_append]

theorem ofResults_append (a b : List (Except ApplyError Change)) :
    ofResults (a ++ b) = ofResults a ++ ofResults b :=
  List.filterMap_append

theorem writes_ofResults_ok (change : Change) :
    writes (ofResults [.ok change]) = if change.outcome.isWrite then 1 else 0 := by
  by_cases hwrite : change.outcome.isWrite = true <;>
    simp [ofResults, writes, isWrite, hwrite]

end Change

namespace World

structure Reaches (w : World) (writes : Nat) (after : World) : Prop where
  calm : after.store.rules = []
  issued : ∃ calls, after.store.writes = w.store.writes ++ calls ∧ calls.length = writes

namespace Reaches

variable {w mid after : World} {m n : Nat}

theorem refl (hcalm : w.store.rules = []) : w.Reaches 0 w :=
  ⟨hcalm, [], by simp⟩

theorem trans (h : w.Reaches m mid) (h' : mid.Reaches n after) : w.Reaches (m + n) after := by
  obtain ⟨calls, hcalls, hm⟩ := h.issued
  obtain ⟨more, hmore, hn⟩ := h'.issued
  refine ⟨h'.calm, calls ++ more, ?_, ?_⟩
  · rw [hmore, hcalls, List.append_assoc]
  · rw [List.length_append, hm, hn]

theorem of_store (h : w.Reaches n mid) (hstore : after.store = mid.store) : w.Reaches n after :=
  ⟨hstore ▸ h.calm, hstore ▸ h.issued⟩

theorem writes_eq (h : w.Reaches 0 after) : after.store.writes = w.store.writes := by
  obtain ⟨calls, hcalls, hlength⟩ := h.issued
  rw [hcalls, List.eq_nil_of_length_eq_zero hlength, List.append_nil]

end Reaches

def writesOf (c : Call) : Nat :=
  if c.verb.isWrite then 1 else 0

theorem call_eq {w : World} {c : Call} {reply : Reply} {cluster : Cluster}
    (hcalm : w.store.rules = []) (h : w.store.cluster.perform c = (reply, cluster)) :
    handler.call c w = (.ok reply, { w with
      store := { w.store with cluster, calls := w.store.calls ++ [LoggedCall.of c] } }) := by
  simp only [handler, call, FaultyCluster.perform, FaultyCluster.faultOf?, hcalm, List.find?_nil,
    Option.map_none, h]

end World

namespace Pass

/-- Without faults a call is answered as the cluster answers it. -/
theorem Ends.answered {w : World} {c : Call} {reply : Reply} {cluster : Cluster}
    {Q : Reply → World → Prop} (hcalm : w.store.rules = [])
    (h : w.store.cluster.perform c = (reply, cluster))
    (hpost : ∀ after : World, after.store.cluster = cluster →
      w.Reaches (World.writesOf c) after → Q reply after) :
    Ends World.handler (Pass.perform c) w Q := by
  refine Ends.perform (World.call_eq hcalm h) (hpost _ rfl ⟨hcalm, ?_⟩)
  refine ⟨[LoggedCall.of c].filter (·.verb.isWrite), ?_, ?_⟩
  · simp only [FaultyCluster.writes, List.filter_append]
  · simp only [World.writesOf, LoggedCall.of, List.filter_cons, List.filter_nil]
    split <;> rfl

theorem lookup_ends {w : World} (hcalm : w.store.rules = []) (key : ObjectKey) :
    Ends World.handler (lookup key) w fun result after =>
      result = (·.bind (·.child?)) <$> w.store.cluster.get key ∧ w.Reaches 0 after ∧
        after.store.cluster = w.store.cluster := by
  refine Ends.bind (R := fun reply after => reply = w.store.cluster.get key ∧
    w.Reaches 0 after ∧ after.store.cluster = w.store.cluster) ?_ ?_
  · exact Ends.answered hcalm rfl fun after hcluster hreaches => ⟨rfl, hreaches, hcluster⟩
  · intro _ after hpost
    obtain ⟨rfl, hreaches, hcluster⟩ := hpost
    exact Ends.pure ⟨rfl, hreaches, hcluster⟩

end Pass

namespace CompositeApp

variable {app : CompositeApp} {kind : ChildKind} {target : Target}

/-- If the object of a target is to be deleted, then it is on its own. -/
def DeletesAlone (app : CompositeApp) (c : Cluster) (kind : ChildKind) (target : Target) : Prop :=
  app.plan kind target (c.get? (app.targetKey kind target)) = .ok .delete →
    c.Alone app.metadata.uid (app.targetKey kind target)

theorem DeletesAlone.of_confined {app : CompositeApp} {c after : Cluster}
    {keys : ObjectKey → Prop} {kind : ChildKind} {target : Target}
    (h : app.DeletesAlone c kind target) (hconfined : c.Confined app.metadata.uid keys after)
    (hkey : ¬ keys (app.targetKey kind target)) : app.DeletesAlone after kind target := by
  intro hplan
  rw [hconfined.frame _ hkey] at hplan
  exact (h hplan).of_confined hconfined hkey

def report (app : CompositeApp) (kind : ChildKind) (target : Target) (stored : Option Resource) :
    Except ApplyError Change :=
  (fun action => ⟨kind.name, target.name, action.outcome⟩) <$> app.plan kind target stored

/-- What is stored for a target before and after a pass: what the plan for it says, and no change
where there is none. -/
def Brought (app : CompositeApp) (kind : ChildKind) (target : Target)
    (before after : Option Resource) : Prop :=
  match app.plan kind target before with
  | .ok action => action.Yields before after
  | .error _ => after = before

/-- An object that is claimed for a target is stored under its key. -/
theorem key_of_claim {wanted claimed : Child} {observed : Option Child}
    (htarget : target ∈ app.targets kind.scope)
    (hwanted : kind.desired app target.entry observed = .ok (.present wanted))
    (hclaim : app.claim target.name wanted = .ok claimed) :
    (Resource.child claimed).key = app.targetKey kind target := by
  obtain ⟨r, -, rfl⟩ := claim_eq_ok hclaim
  obtain ⟨hkind, hmetadata⟩ := ChildKind.desired_present htarget hwanted
  have hkey : (Resource.child wanted).key = app.targetKey kind target := by
    simp only [Resource.key, Resource.kind, Resource.metadata, hkind]
    rw [hmetadata]
    rfl
  simpa only [Resource.key, Resource.kind, Resource.metadata, Child.kind_withMetadata,
    Child.metadata_withMetadata, ObjectMeta.namespaceOrDefault, ObjectMeta.displayName] using hkey

/-- So is what it is replaced by. -/
theorem key_of_preparedUpdate {wanted claimed seen : Child} {observed : Option Child}
    (htarget : target ∈ app.targets kind.scope)
    (hwanted : kind.desired app target.entry observed = .ok (.present wanted))
    (hclaim : app.claim target.name wanted = .ok claimed) :
    (Resource.child (claimed.preparedUpdate seen)).key = app.targetKey kind target := by
  rw [← key_of_claim htarget hwanted hclaim]
  simp only [Resource.key, Resource.kind, Resource.metadata, Child.kind_preparedUpdate,
    Child.metadata_preparedUpdate]
  rfl

/-- An object that is stored with the owners of one that was claimed for the app belongs to no one
else. -/
theorem isOwnedBy_of_claim {name uid : String} {wanted claimed : Child} {r : Resource}
    (hclaim : app.claim name wanted = .ok claimed)
    (howners : r.metadata.ownerReferences = claimed.metadata.ownerReferences)
    (huid : app.metadata.uid ≠ some uid) : r.isOwnedBy uid = false := by
  obtain ⟨ref, href, rfl⟩ := claim_eq_ok hclaim
  rw [Child.metadata_withMetadata] at howners
  have hne : ref.uid ≠ uid := by
    intro hsame
    obtain rfl := hsame
    exact huid (controllerReference?_eq_some href).1
  simp [Resource.isOwnedBy, ObjectMeta.owners, howners, hne]

end CompositeApp

namespace Action

theorem write?_eq_none {key : ObjectKey} {action : Action} (h : action.write? key = none) :
    action = .keep := by
  cases action <;> first | rfl | exact absurd h (by simp [write?])

theorem isWrite_of_write? {key : ObjectKey} {action : Action} {write : Call}
    (h : action.write? key = some write) :
    action.outcome.isWrite = true ∧ write.verb.isWrite = true := by
  cases action with
  | keep => exact absurd h (by simp [write?])
  | create | update | delete =>
    obtain rfl := Option.some.inj h
    exact ⟨rfl, rfl⟩

end Action

namespace Cluster

variable {c : Cluster} {app : CompositeApp} {kind : ChildKind} {target : Target}

/-- Under the key of a target nothing is stored but an object for it. -/
theorem exists_child_of_get? {r : Resource} (hkeyed : c.Keyed)
    (hr : c.get? (app.targetKey kind target) = some r) : ∃ made, r = .child made := by
  have hkind := congrArg ObjectKey.kind (hkeyed _ r hr)
  cases r with
  | app a => exact absurd hkind (by simp [Resource.key, Resource.kind, CompositeApp.targetKey])
  | child made => exact ⟨made, rfl⟩

theorem get?_eq_none_of_child? (app : CompositeApp) (kind : ChildKind) (target : Target)
    (hkeyed : c.Keyed)
    (h : (c.get? (app.targetKey kind target)).bind (·.child?) = none) :
    c.get? (app.targetKey kind target) = none := by
  cases hstored : c.get? (app.targetKey kind target) with
  | none => rfl
  | some r =>
    obtain ⟨made, rfl⟩ := exists_child_of_get? hkeyed hstored
    rw [hstored] at h
    exact absurd h (by simp [Resource.child?])

/-- What reports a status can be read wherever it is stored. -/
theorem get_of_observes (app : CompositeApp) (target : Target) (hkeyed : c.Keyed)
    (hobserves : kind.observes = true) :
    c.get (app.targetKey kind target) = .ok (c.get? (app.targetKey kind target)) := by
  refine Reply.ofStored_eq_ok.2 ⟨rfl, ?_⟩
  cases hstored : c.get? (app.targetKey kind target) with
  | none => rfl
  | some r =>
    obtain ⟨made, rfl⟩ := exists_child_of_get? hkeyed hstored
    have hkind := congrArg ObjectKey.kind (hkeyed _ _ hstored)
    obtain rfl : made.kind = kind := Kind.child.inj hkind
    cases made with
    | deployment d => rfl
    | service | virtualService | autoscaler | destinationRule =>
      exact absurd hobserves (by simp [Child.kind, ChildKind.observes])

theorem yields_delete {key : ObjectKey} {stored : Resource} (hkeyed : c.Keyed)
    (hstored : c.get? key = some stored) :
    Action.delete.Yields (c.get? key) ((c.delete key).get? key) := by
  have heffect := delete_effect c key
  generalize c.delete key = after at heffect ⊢
  cases heffect with
  | missed _ hgone => exact absurd (hgone.symm.trans hstored) (by simp)
  | doomed _ found hfound hheld =>
    have hkey : (Cluster.doomed (c.version + 1) found).key = key := by
      rw [key_doomed, hkeyed key found hfound]
    rw [hfound, get?_put, if_pos hkey]
    exact Action.Yields.doomed found (c.version + 1) hheld
  | removed _ found hfound hheld =>
    have hgone : get? { c with objects := c.objects.remove key } key = none :=
      Objects.getElem?_remove_self c.objects key
    rw [hfound, hgone]
    exact Action.Yields.deleted found hheld

section Claimed

variable {name : String} {wanted claimed seen : Child} {key : ObjectKey}

/-- To store what the object of a target is replaced by touches nothing else. -/
theorem Confined.put_preparedUpdate (hclaim : app.claim name wanted = .ok claimed)
    (hkey : (Resource.child (claimed.preparedUpdate seen)).key = key) (stored : Resource)
    (version : Nat) : c.Confined app.metadata.uid (· = key)
      (c.put (replacement stored (.child (claimed.preparedUpdate seen)) version)) := by
  have hnew : (replacement stored (.child (claimed.preparedUpdate seen)) version).key = key := by
    rw [key_replacement, hkey]
  rw [← hnew]
  refine Confined.put _ fun uid huid _ => ?_
  refine CompositeApp.isOwnedBy_of_claim hclaim ?_ huid
  rw [metadata_replacement, Resource.metadata, Child.metadata_preparedUpdate]

theorem exists_perform_create (hclaim : app.claim name wanted = .ok claimed)
    (hfinite : claimed.isFinite = true) (hkey : (Resource.child claimed).key = key)
    (hfree : c.get? key = none) :
    ∃ reply after, c.perform (.create (.child claimed)) = (.ok reply, after) ∧
      c.Confined app.metadata.uid (· = key) after ∧
      (Action.create claimed).Yields (c.get? key) (after.get? key) := by
  have hnew : (newborn (c.version + 1) (.child claimed)).key = key := by rw [key_newborn, hkey]
  have howners : ∀ uid, app.metadata.uid ≠ some uid → c.Unlisted uid →
      (newborn (c.version + 1) (.child claimed)).isOwnedBy uid = false := by
    intro uid huid _
    exact CompositeApp.isOwnedBy_of_claim hclaim (by rw [metadata_newborn]; rfl) huid
  have heffect := Effect.created (c := c) (.child claimed) (by rw [hkey, hfree])
  refine ⟨_, _, heffect.perform_of_isFinite ?_, ?_, ?_⟩
  · exact (isFinite_newborn (c.version + 1) (.child claimed)).trans hfinite
  · simpa only [hnew] using Confined.put _ howners
  · rw [hfree, get?_put, if_pos hnew]
    exact Action.Yields.created claimed (c.version + 1)

theorem exists_perform_update (hclaim : app.claim name wanted = .ok claimed)
    (hfinite : claimed.isFinite = true)
    (hkey : (Resource.child (claimed.preparedUpdate seen)).key = key)
    (hstored : c.get? key = some (.child seen)) (hlive : seen.metadata.isTerminating = false) :
    ∃ reply after, c.perform (.replace (.child (claimed.preparedUpdate seen))) =
        (.ok reply, after) ∧
      c.Confined app.metadata.uid (· = key) after ∧
      (Action.update (claimed.preparedUpdate seen)).Yields (c.get? key) (after.get? key) := by
  have hversion : (Resource.child (claimed.preparedUpdate seen)).metadata.resourceVersion =
      (Resource.child seen).metadata.resourceVersion := by
    rw [Resource.metadata, Child.metadata_preparedUpdate]
    rfl
  have hfound : c.get? (Resource.child (claimed.preparedUpdate seen)).key =
      some (.child seen) := by rw [hkey, hstored]
  have heffect := Effect.replaced_of_current hfound hversion hlive
  refine ⟨_, _, heffect.perform_of_isFinite ?_, ?_, ?_⟩
  · refine (isFinite_replacement (.child seen) (.child (claimed.preparedUpdate seen)) _).trans ?_
    exact (Child.isFinite_preparedUpdate claimed seen).trans hfinite
  · exact Confined.put_preparedUpdate hclaim hkey (.child seen) (c.version + 1)
  · rw [hstored, get?_put, if_pos (by rw [key_replacement, hkey])]
    exact Action.Yields.updated _ _ (c.version + 1)

end Claimed

/-- The write that a plan takes works, touches nothing else, and does what the plan says. -/
theorem exists_perform_of_plan {action : Action} {write : Call} (hkeyed : c.Keyed)
    (hvalid : app.validate = .ok ()) (htarget : target ∈ app.targets kind.scope)
    (halone : app.DeletesAlone c kind target)
    (hplan : app.plan kind target (c.get? (app.targetKey kind target)) = .ok action)
    (hwrite : action.write? (app.targetKey kind target) = some write) :
    ∃ reply after, c.perform write = (.ok reply, after) ∧
      c.Confined app.metadata.uid (· = app.targetKey kind target) after ∧
      action.Yields (c.get? (app.targetKey kind target))
        (after.get? (app.targetKey kind target)) := by
  have hdesired := kind.desired_eq_wanted hvalid target.entry
    ((c.get? (app.targetKey kind target)).bind (·.child?))
  cases CompositeApp.verdict_of_plan hplan with
  | unmanaged | gone | right => exact absurd hwrite (by simp [Action.write?])
  | obsolete seen hwanted hseen hlive =>
    obtain rfl := Option.some.inj hwrite
    obtain ⟨stored, hstored, -⟩ := Option.bind_eq_some_iff.1 hseen
    have hchildless := (halone hplan).childless
    exact ⟨none, _, rfl, Confined.delete hkeyed hchildless, yields_delete hkeyed hstored⟩
  | missing wanted claimed hwanted hmissing hclaim =>
    obtain rfl := Option.some.inj hwrite
    rw [hwanted] at hdesired
    have hkey := CompositeApp.key_of_claim htarget hdesired hclaim
    have hfinite := CompositeApp.isFinite_of_wanted hvalid htarget hdesired hclaim
    exact exists_perform_create hclaim hfinite hkey
      (get?_eq_none_of_child? app kind target hkeyed hmissing)
  | drifted wanted seen claimed hwanted hseen hlive hclaim =>
    obtain rfl := Option.some.inj hwrite
    rw [hwanted] at hdesired
    obtain ⟨stored, hstored, hchild⟩ := Option.bind_eq_some_iff.1 hseen
    obtain rfl := Resource.child?_eq_some.1 hchild
    have hkey : (Resource.child (claimed.preparedUpdate seen)).key = app.targetKey kind target :=
      CompositeApp.key_of_preparedUpdate htarget hdesired hclaim
    have hfinite := CompositeApp.isFinite_of_wanted hvalid htarget hdesired hclaim
    exact exists_perform_update hclaim hfinite hkey hstored hlive

end Cluster

namespace Pass

variable {w : World} {app : CompositeApp} {kind : ChildKind} {target : Target}

/-- Notes a change and goes on. -/
theorem settle_ends {mid : World} {n : Nat} {change : Change} (hreaches : w.Reaches n mid) :
    Ends World.handler (settle change) mid fun result after =>
      result = .ok change ∧ w.Reaches n after ∧ after.store.cluster = mid.store.cluster := by
  have hnote : Ends World.handler (note change) mid fun _ after =>
      w.Reaches n after ∧ after.store.cluster = mid.store.cluster :=
    Ends.note ⟨hreaches.of_store rfl, rfl⟩
  exact hnote.bind fun _ after hmid => Ends.pure ⟨rfl, hmid⟩

/-- Carrying out a plan reports the change, and issues a write if the change is one. -/
theorem carryOut_ends {action : Action} (hcalm : w.store.rules = [])
    (hkeyed : w.store.cluster.Keyed) (hvalid : app.validate = .ok ())
    (htarget : target ∈ app.targets kind.scope)
    (halone : app.DeletesAlone w.store.cluster kind target)
    (hplan : app.plan kind target (w.store.cluster.get? (app.targetKey kind target)) = .ok action) :
    Ends World.handler (carryOut (app.targetKey kind target) action) w fun result after =>
      result = .ok ⟨kind.name, target.name, action.outcome⟩ ∧
      w.Reaches (if action.outcome.isWrite then 1 else 0) after ∧
      w.store.cluster.Confined app.metadata.uid (· = app.targetKey kind target)
        after.store.cluster ∧
      action.Yields (w.store.cluster.get? (app.targetKey kind target))
        (after.store.cluster.get? (app.targetKey kind target)) := by
  unfold carryOut
  cases hwrite : action.write? (app.targetKey kind target) with
  | none =>
    obtain rfl := Action.write?_eq_none hwrite
    refine (settle_ends (World.Reaches.refl hcalm)).mono ?_
    intro result after hpost
    obtain ⟨rfl, hreaches, hcluster⟩ := hpost
    refine ⟨rfl, hreaches, ?_, ?_⟩
    · rw [hcluster]
      exact Cluster.Confined.refl _ _ _
    · rw [hcluster]
      exact Action.Yields.kept _
  | some write =>
    obtain ⟨reply, cluster, hperform, hconfined, hyields⟩ :=
      Cluster.exists_perform_of_plan hkeyed hvalid htarget halone hplan hwrite
    obtain ⟨hchange, hverb⟩ := Action.isWrite_of_write? hwrite
    have hanswered := Ends.answered (Q := fun reply mid => (∃ object, reply = .ok object) ∧
      w.Reaches (World.writesOf write) mid ∧ mid.store.cluster = cluster) hcalm hperform
      fun mid hcluster hreaches => ⟨⟨_, rfl⟩, hreaches, hcluster⟩
    refine hanswered.bind ?_
    intro _ mid hpost
    obtain ⟨⟨object, rfl⟩, hreaches, hcluster⟩ := hpost
    refine (settle_ends hreaches).mono ?_
    intro result after hpost
    obtain ⟨rfl, hreaches, hsame⟩ := hpost
    refine ⟨rfl, ?_, ?_, ?_⟩
    · simpa only [World.writesOf, hverb, hchange] using hreaches
    · rw [hsame, hcluster]
      exact hconfined
    · rw [hsame, hcluster]
      exact hyields

theorem converge_ends (hcalm : w.store.rules = []) (hkeyed : w.store.cluster.Keyed)
    (hvalid : app.validate = .ok ()) (htarget : target ∈ app.targets kind.scope)
    (halone : app.DeletesAlone w.store.cluster kind target) :
    Ends World.handler (converge app kind target) w fun result after =>
      result = app.report kind target (w.store.cluster.get? (app.targetKey kind target)) ∧
      w.Reaches (Change.writes (Change.ofResults [result])) after ∧
      w.store.cluster.Confined app.metadata.uid (· = app.targetKey kind target)
        after.store.cluster ∧
      app.Brought kind target (w.store.cluster.get? (app.targetKey kind target))
        (after.store.cluster.get? (app.targetKey kind target)) := by
  unfold converge
  refine (lookup_ends hcalm (app.targetKey kind target)).bind ?_
  intro _ mid hpost
  obtain ⟨rfl, hreaches, hcluster⟩ := hpost
  rw [← hcluster] at hkeyed halone ⊢
  cases hread : mid.store.cluster.get (app.targetKey kind target) with
  | error e =>
    -- What is stored cannot be read, and is left as it is.
    have hplan : app.plan kind target (mid.store.cluster.get? (app.targetKey kind target)) =
        .error (.store kind.name target.name e) := CompositeApp.plan_of_unread hread
    refine Ends.pure ⟨?_, hreaches, Cluster.Confined.refl _ _ _, ?_⟩
    · rw [CompositeApp.report, hplan]
      rfl
    · rw [CompositeApp.Brought, hplan]
  | ok found =>
    obtain ⟨rfl, hfinite⟩ := Reply.ofStored_eq_ok.1 hread
    have hdesired := kind.desired_eq_wanted hvalid target.entry
      ((mid.store.cluster.get? (app.targetKey kind target)).bind (·.child?))
    refine Ends.bind (R := fun desired last => .ok desired = kind.desired app target.entry
      ((mid.store.cluster.get? (app.targetKey kind target)).bind (·.child?)) ∧ last = mid) ?_ ?_
    · rw [hdesired]
      exact ⟨_, mid, rfl, rfl, rfl⟩
    intro desired last hpost
    obtain ⟨hdecided, rfl⟩ := hpost
    obtain rfl := Except.ok.inj (hdecided.trans hdesired)
    have hdecide : Action.decide app target.name
        (kind.wanted app target.entry
          ((last.store.cluster.get? (app.targetKey kind target)).bind (·.child?)))
        ((last.store.cluster.get? (app.targetKey kind target)).bind (·.child?)) =
        app.plan kind target (last.store.cluster.get? (app.targetKey kind target)) :=
      (CompositeApp.plan_of_isFinite hfinite).symm
    rw [hdecide]
    cases hplan : app.plan kind target
        (last.store.cluster.get? (app.targetKey kind target)) with
    | error e =>
      refine Ends.pure ⟨?_, hreaches, Cluster.Confined.refl _ _ _, ?_⟩
      · rw [CompositeApp.report, hplan]
        rfl
      · rw [CompositeApp.Brought, hplan]
    | ok action =>
      refine (carryOut_ends hreaches.calm hkeyed hvalid htarget halone hplan).mono ?_
      intro result after hpost
      obtain ⟨rfl, hwrites, hconfined, hyields⟩ := hpost
      refine ⟨?_, ?_, hconfined, ?_⟩
      · rw [CompositeApp.report, hplan]
        rfl
      · rw [Change.writes_ofResults_ok]
        simpa only [Nat.zero_add] using hreaches.trans hwrites
      · rw [CompositeApp.Brought, hplan]
        exact hyields

/-- The targets of a kind are brought in line one after the other. -/
theorem convergeAll_ends {targets : List Target} (hcalm : w.store.rules = [])
    (hkeyed : w.store.cluster.Keyed) (hvalid : app.validate = .ok ())
    (htargets : ∀ target ∈ targets, target ∈ app.targets kind.scope)
    (hnodup : (targets.map (·.name)).Nodup)
    (halone : ∀ target ∈ targets, app.DeletesAlone w.store.cluster kind target) :
    Ends World.handler (convergeAll app kind targets) w fun results after =>
      results = targets.map (fun target =>
        app.report kind target (w.store.cluster.get? (app.targetKey kind target))) ∧
      w.Reaches (Change.writes (Change.ofResults results)) after ∧
      w.store.cluster.Confined app.metadata.uid
        (fun key => ∃ target ∈ targets, key = app.targetKey kind target) after.store.cluster ∧
      ∀ target ∈ targets, app.Brought kind target
        (w.store.cluster.get? (app.targetKey kind target))
        (after.store.cluster.get? (app.targetKey kind target)) := by
  induction targets generalizing w with
  | nil =>
    exact Ends.pure ⟨rfl, World.Reaches.refl hcalm, Cluster.Confined.refl _ _ _, by simp⟩
  | cons target rest ih =>
    obtain ⟨hhead, hrest⟩ := List.nodup_cons.1 hnodup
    have hne : ∀ other ∈ rest, app.targetKey kind other ≠ app.targetKey kind target := by
      intro other hother hkey
      exact hhead (List.mem_map.2 ⟨other, hother, congrArg ObjectKey.name hkey⟩)
    have hself := halone target List.mem_cons_self
    refine (converge_ends hcalm hkeyed hvalid (htargets target List.mem_cons_self)
      hself).bind ?_
    intro result mid hpost
    obtain ⟨hresult, hreaches, hconfined, hbrought⟩ := hpost
    have hframe : ∀ other ∈ rest, mid.store.cluster.get? (app.targetKey kind other) =
        w.store.cluster.get? (app.targetKey kind other) :=
      fun other hother => hconfined.frame _ (hne other hother)
    refine (ih hreaches.calm (hconfined.keyed hkeyed)
      (fun other hother => htargets other (List.mem_cons_of_mem _ hother)) hrest
      (fun other hother => ?_)).bind ?_
    · exact (halone other (List.mem_cons_of_mem _ hother)).of_confined hconfined (hne other hother)
    intro results after hpost
    obtain ⟨hresults, hmore, hconfined', hbrought'⟩ := hpost
    refine Ends.pure ⟨?_, ?_, ?_, ?_⟩
    · rw [hresults, hresult, List.map_cons]
      congr 1
      exact List.map_congr_left fun other hother => by rw [hframe other hother]
    · have hsplit : Change.ofResults (result :: results) =
          Change.ofResults [result] ++ Change.ofResults results :=
        Change.ofResults_append [result] results
      rw [hsplit, Change.writes_append]
      exact hreaches.trans hmore
    · refine (hconfined.trans hconfined').mono ?_
      intro key hkey
      rcases hkey with rfl | ⟨other, hother, rfl⟩
      · exact ⟨target, List.mem_cons_self, rfl⟩
      · exact ⟨other, List.mem_cons_of_mem _ hother, rfl⟩
    · intro other hother
      rcases List.mem_cons.1 hother with rfl | hother
      · have hlater := hconfined'.frame (app.targetKey kind other)
          (by rintro ⟨twin, htwin, hkey⟩; exact hne twin htwin hkey.symm)
        rw [hlater]
        exact hbrought
      · have hbefore := hbrought' other hother
        rwa [hframe other hother] at hbefore

end Pass

end CompositeApps
