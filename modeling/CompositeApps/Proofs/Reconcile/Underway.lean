import CompositeApps.Proofs.Reconcile.Among
import CompositeApps.Proofs.Reconcile.LivePass
import Mathlib.Data.List.Nodup

/-!
A world on the way to what an app wants, in which passes over one copy of the app are at work.
Whatever one of them does about a target, another one finds done or does once more to the same
effect: a second create is refused, and a second update or delete leaves the object as the first one
has made it, but for the versions and uids that the store gives out.
-/

namespace CompositeApps

def Resource.unstamped (r : Resource) : Resource :=
  r.mapMetadata fun m => { m with resourceVersion := none, uid := none }

namespace Cluster

/-- Under which version and uid an object is made makes no other difference. -/
theorem unstamped_newborn (version : Nat) (r : Resource) :
    (newborn version r).unstamped = r.unstamped := by
  unfold newborn stamped Resource.unstamped
  simp only [Resource.mapMetadata, Resource.metadata_withMetadata,
    Resource.withMetadata_withMetadata]

/-- Under which version an object is marked for deletion makes no other difference. -/
theorem unstamped_doomed (version version' : Nat) (r : Resource) :
    (doomed version r).unstamped = (doomed version' r).unstamped := by
  unfold doomed Resource.unstamped
  simp only [Resource.mapMetadata, Resource.metadata_withMetadata,
    Resource.withMetadata_withMetadata, stamped]

theorem unstamped_replacement (version version' : Nat) (stored r : Resource) :
    (replacement stored r version).unstamped = (replacement stored r version').unstamped := by
  unfold replacement Resource.unstamped
  simp only [Resource.mapMetadata, Resource.metadata_withMetadata,
    Resource.withMetadata_withMetadata]

end Cluster

/-- An action has one outcome, up to what the store gives out. -/
theorem Action.Yields.unstamped_eq {action : Action} {before after after' : Option Resource}
    (h : action.Yields before after) (h' : action.Yields before after') :
    after.map Resource.unstamped = after'.map Resource.unstamped := by
  cases h with
  | kept =>
    cases h'
    rfl
  | created object version =>
    cases h' with
    | created _ version' =>
      rw [Option.map_some, Option.map_some, Cluster.unstamped_newborn, Cluster.unstamped_newborn]
  | updated object stored version =>
    cases h' with
    | updated _ _ version' =>
      rw [Option.map_some, Option.map_some, Cluster.unstamped_replacement version version']
  | deleted stored hfree =>
    cases h' with
    | deleted => rfl
    | doomed _ _ hheld => exact absurd (hfree.symm.trans hheld) (by simp)
  | doomed stored version hheld =>
    cases h' with
    | deleted _ hfree => exact absurd (hfree.symm.trans hheld) (by simp)
    | doomed _ version' =>
      rw [Option.map_some, Option.map_some, Cluster.unstamped_doomed version version']

theorem CompositeApp.Brought.unstamped_eq {app : CompositeApp} {kind : ChildKind} {target : Target}
    {before after after' : Option Resource} (h : app.Brought kind target before after)
    (h' : app.Brought kind target before after') :
    after.map Resource.unstamped = after'.map Resource.unstamped := by
  unfold Brought at h h'
  cases hplan : app.plan kind target before with
  | ok action =>
    rw [hplan] at h h'
    exact h.unstamped_eq h'
  | error e =>
    rw [hplan] at h h'
    rw [show after = before from h, show after' = before from h']

namespace Action.Yields

variable {c after : Cluster} {object : Child} {before reply : Option Resource} {key : ObjectKey}

/-- To delete once more leaves what the first delete has made of the object. -/
theorem delete_again (hkeyed : c.Keyed) (h : Action.delete.Yields before (c.get? key)) :
    Action.delete.Yields before ((c.delete key).get? key) := by
  have heffect := Cluster.delete_effect c key
  generalize c.delete key = after at heffect ⊢
  generalize hnow : c.get? key = now at h
  cases h with
  | deleted stored hfree =>
    cases heffect with
    | missed =>
      rw [hnow]
      exact .deleted stored hfree
    | doomed _ _ hfound | removed _ _ hfound =>
      rw [hnow] at hfound
      exact absurd hfound (by simp)
  | doomed stored version hheld =>
    cases heffect with
    | missed _ hgone =>
      rw [hnow] at hgone
      exact absurd hgone (by simp)
    | doomed _ found hfound =>
      have hkey := hkeyed _ _ hfound
      rw [hnow] at hfound
      obtain rfl := Option.some.inj hfound
      rw [Cluster.key_doomed] at hkey
      rw [Cluster.doomed_doomed, Cluster.get?_put, if_pos (by rw [Cluster.key_doomed, hkey])]
      exact .doomed stored _ hheld
    | removed _ found hfound hfree =>
      rw [hnow] at hfound
      obtain rfl := Option.some.inj hfound
      rw [Cluster.metadata_doomed] at hfree
      exact absurd (hheld.symm.trans hfree) (by simp)

/-- To create once more is refused. -/
theorem not_create_again (hkey : (Resource.child object).key = key)
    (h : (Action.create object).Yields before (c.get? key)) :
    ¬ c.Effect (.create (.child object)) reply after := by
  intro heffect
  generalize hnow : c.get? key = now at h
  cases h with
  | created =>
    cases heffect with
    | created _ hfree =>
      rw [hkey, hnow] at hfree
      exact absurd hfree (by simp)

/-- To replace once more, if it is not refused, makes of the object what the first replace has
made. -/
theorem update_again {stored : Resource} (hkey : (Resource.child object).key = key)
    (hlive : stored.metadata.isTerminating = false)
    (h : (Action.update object).Yields (some stored) (c.get? key))
    (heffect : c.Effect (.replace (.child object)) reply after) :
    after = c.put (Cluster.replacement stored (.child object) (c.version + 1)) := by
  generalize hnow : c.get? key = now at h
  cases h with
  | updated _ _ version =>
    cases heffect with
    | replaced _ found hfound =>
      rw [hkey, hnow] at hfound
      obtain rfl := Option.some.inj hfound
      rw [Cluster.replacement_replacement]
    | released _ found hfound _ hreleased =>
      rw [hkey, hnow] at hfound
      obtain rfl := Option.some.inj hfound
      rw [Cluster.replacement_replacement, Cluster.metadata_replacement, ObjectMeta.isReleased,
        Bool.and_eq_true_iff] at hreleased
      exact absurd (hlive.symm.trans hreleased.1) (by simp)

end Action.Yields

/-- A planned write that works where another one has done it already does it once more, to the same
effect. -/
theorem Cluster.Effect.again {c after : Cluster} {app : CompositeApp} {kind : ChildKind}
    {target : Target} {action : Action} {write : Call} {before reply : Option Resource}
    (hkeyed : c.Keyed) (hvalid : app.validate = .ok ()) (htarget : target ∈ app.targets kind.scope)
    (hplan : app.plan kind target before = .ok action)
    (hwrite : action.write? (app.targetKey kind target) = some write)
    (hyields : action.Yields before (c.get? (app.targetKey kind target)))
    (hchildless : action = .delete → c.Childless (app.targetKey kind target))
    (heffect : c.Effect write reply after) :
    c.Confined app.metadata.uid (· = app.targetKey kind target) after ∧
      action.Yields before (after.get? (app.targetKey kind target)) := by
  have hdesired := kind.desired_eq_wanted hvalid target.entry (before.bind (·.child?))
  cases CompositeApp.verdict_of_plan hplan with
  | unmanaged | gone | right => exact absurd hwrite (by simp [Action.write?])
  | obsolete =>
    obtain rfl := Option.some.inj hwrite
    obtain ⟨-, rfl⟩ := Prod.mk.inj heffect.perform_eq
    exact ⟨Confined.delete hkeyed (hchildless rfl), hyields.delete_again hkeyed⟩
  | missing wanted claimed hwanted _ hclaim =>
    obtain rfl := Option.some.inj hwrite
    rw [hwanted] at hdesired
    have hkey := CompositeApp.key_of_claim htarget hdesired hclaim
    exact absurd heffect (hyields.not_create_again hkey)
  | drifted wanted seen claimed hwanted hseen hlive hclaim =>
    obtain rfl := Option.some.inj hwrite
    rw [hwanted] at hdesired
    obtain ⟨stored, rfl, hchild⟩ := Option.bind_eq_some_iff.1 hseen
    obtain rfl := Resource.child?_eq_some.1 hchild
    have hkey : (Resource.child (claimed.preparedUpdate seen)).key = app.targetKey kind target :=
      CompositeApp.key_of_preparedUpdate htarget hdesired hclaim
    have hstoredLive : (Resource.child seen).metadata.isTerminating = false := hlive
    obtain rfl := hyields.update_again hkey hstoredLive heffect
    refine ⟨Confined.put_preparedUpdate hclaim hkey (.child seen) (c.version + 1), ?_⟩
    rw [get?_put, if_pos (by rw [key_replacement, hkey])]
    exact .updated _ _ _

/-- The object of a target is as a pass that finds the cluster of the start leaves it. -/
def World.Attained (app : CompositeApp) (start : Cluster) (kind : ChildKind) (target : Target)
    (w : World) : Prop :=
  app.Brought kind target (start.get? (app.targetKey kind target))
    (w.store.cluster.get? (app.targetKey kind target))

/-- A world without faults on the way from a cluster to what an app wants: nothing else has changed
but the app, and each target is as it was at the start or is brought in line. -/
structure World.Underway (app : CompositeApp) (start : Cluster) (w : World) : Prop where
  calm : w.store.rules = []
  confined : start.Confined app.metadata.uid
    (fun key => app.Covers ChildKind.all key ∨ key = app.storeKey) w.store.cluster
  halfway : ∀ kind : ChildKind, ∀ target ∈ app.targets kind.scope,
    w.store.cluster.get? (app.targetKey kind target) = start.get? (app.targetKey kind target) ∨
      w.Attained app start kind target

structure World.Onward (app : CompositeApp) (start : Cluster) (w now : World) : Prop where
  underway : w.Underway app start → now.Underway app start
  kept : ∀ kind : ChildKind, ∀ target ∈ app.targets kind.scope,
    w.Attained app start kind target → now.Attained app start kind target

theorem World.Onward.refl (app : CompositeApp) (start : Cluster) (w : World) :
    w.Onward app start w :=
  ⟨id, fun _ _ _ => id⟩

theorem World.Onward.trans {app : CompositeApp} {start : Cluster} {w now later : World}
    (h : w.Onward app start now) (h' : now.Onward app start later) : w.Onward app start later :=
  ⟨fun hw => h'.underway (h.underway hw), fun kind target htarget hw =>
    h'.kept kind target htarget (h.kept kind target htarget hw)⟩

def World.onward (app : CompositeApp) (start : Cluster) : Moves World :=
  ⟨World.Onward app start, .refl app start, .trans⟩

/-- The key of a target tells the kind and the target. -/
theorem CompositeApp.targetKey_inj {app : CompositeApp} {kind other : ChildKind}
    {target twin : Target} (hvalid : app.validate = .ok ())
    (htarget : target ∈ app.targets kind.scope) (htwin : twin ∈ app.targets other.scope)
    (hkey : app.targetKey other twin = app.targetKey kind target) :
    other = kind ∧ twin = target := by
  obtain ⟨hkind, -, hname⟩ := ObjectKey.mk.inj hkey
  obtain rfl := Kind.child.inj hkind
  have hnodup := targets_nodup hvalid other.scope
  exact ⟨rfl, List.inj_on_of_nodup_map hnodup htwin htarget hname⟩

namespace World

variable {app : CompositeApp} {start : Cluster} {kind : ChildKind} {target : Target}
  {action : Action} {write : Call} {w after : World}

theorem Attained.congr (h : w.Attained app start kind target)
    (hsame : after.store.cluster.get? (app.targetKey kind target) =
      w.store.cluster.get? (app.targetKey kind target)) : after.Attained app start kind target := by
  unfold Attained
  rw [hsame]
  exact h

theorem attained_iff_yields
    (hplan : app.plan kind target (start.get? (app.targetKey kind target)) = .ok action) :
    w.Attained app start kind target ↔
      action.Yields (start.get? (app.targetKey kind target))
        (w.store.cluster.get? (app.targetKey kind target)) := by
  unfold Attained CompositeApp.Brought
  rw [hplan]

/-- A step by which nothing changes but the app and the targets that are attained by it. -/
theorem Onward.of_confined {keys : ObjectKey → Prop} (hcalm : after.store.rules = [])
    (hconfined : w.store.cluster.Confined app.metadata.uid keys after.store.cluster)
    (hkeys : ∀ key, keys key → app.Covers ChildKind.all key ∨ key = app.storeKey)
    (hattained : ∀ kind : ChildKind, ∀ target ∈ app.targets kind.scope,
      keys (app.targetKey kind target) → after.Attained app start kind target) :
    w.Onward app start after where
  underway hw := by
    refine ⟨hcalm, (hw.confined.trans hconfined).mono fun key hkey => ?_, ?_⟩
    · rcases hkey with hbefore | hnow
      · exact hbefore
      · exact hkeys key hnow
    · intro kind target htarget
      by_cases hkey : keys (app.targetKey kind target)
      · exact Or.inr (hattained kind target htarget hkey)
      · have hsame := hconfined.frame _ hkey
        rcases hw.halfway kind target htarget with huntouched | hbefore
        · exact Or.inl (hsame.trans huntouched)
        · exact Or.inr (hbefore.congr hsame)
  kept kind target htarget hbefore := by
    by_cases hkey : keys (app.targetKey kind target)
    · exact hattained kind target htarget hkey
    · exact hbefore.congr (hconfined.frame _ hkey)

theorem Onward.of_cluster (hcalm : after.store.rules = [])
    (hcluster : after.store.cluster = w.store.cluster) : w.Onward app start after := by
  have hconfined : w.store.cluster.Confined app.metadata.uid (fun _ => False)
      after.store.cluster := by
    rw [hcluster]
    exact .refl _ _ _
  exact .of_confined hcalm hconfined (fun _ => False.elim) fun _ _ _ => False.elim

namespace Underway

/-- A target for which nothing is to be written is attained. -/
theorem attained_of_idle (hw : w.Underway app start) (htarget : target ∈ app.targets kind.scope)
    (hidle : ∀ action,
      app.plan kind target (w.store.cluster.get? (app.targetKey kind target)) = .ok action →
      action = .keep) : w.Attained app start kind target := by
  rcases hw.halfway kind target htarget with hsame | hattained
  · unfold Attained CompositeApp.Brought
    rw [hsame] at hidle ⊢
    cases hplan : app.plan kind target (start.get? (app.targetKey kind target)) with
    | error e => rfl
    | ok action =>
      obtain rfl := hidle action hplan
      exact .kept _
  · exact hattained

/-- What is to be written for a target on the way is what was to be written at the start: it is not
attained yet. -/
theorem plan_of_write (hw : w.Underway app start) (hvalid : app.validate = .ok ())
    (htarget : target ∈ app.targets kind.scope)
    (hplan : app.plan kind target (w.store.cluster.get? (app.targetKey kind target)) = .ok action)
    (hwrite : action ≠ .keep) :
    app.plan kind target (start.get? (app.targetKey kind target)) = .ok action := by
  rcases hw.halfway kind target htarget with hsame | hattained
  · rw [← hsame, hplan]
  cases hstart : app.plan kind target (start.get? (app.targetKey kind target)) with
  | error e =>
    unfold Attained CompositeApp.Brought at hattained
    rw [hstart] at hattained
    rw [show _ = start.get? _ from hattained, hstart] at hplan
    exact absurd hplan (by simp)
  | ok planned =>
    have hyields := (attained_iff_yields hstart).1 hattained
    have hkeep := CompositeApp.plan_of_yields hvalid htarget hstart hyields
    exact absurd (Except.ok.inj (hplan.symm.trans hkeep)) hwrite

/-- What is to be deleted is still on its own on the way. -/
theorem alone (hw : w.Underway app start) (htarget : target ∈ app.targets kind.scope)
    (halone : app.DeletesAlone start kind target)
    (hplan : app.plan kind target (start.get? (app.targetKey kind target)) = .ok .delete) :
    w.store.cluster.Alone app.metadata.uid (app.targetKey kind target) := by
  refine (halone hplan).of_uid hw.confined fun r hr => ?_
  rcases hw.halfway kind target htarget with hsame | hattained
  · exact ⟨r, hsame.symm.trans hr, rfl⟩
  · have hyields := (attained_iff_yields hplan).1 hattained
    rw [hr] at hyields
    generalize start.get? (app.targetKey kind target) = before at hyields
    cases hyields with
    | doomed stored version =>
      refine ⟨stored, rfl, ?_⟩
      rw [Cluster.metadata_doomed]

section Write

variable (hw : w.Underway app start) (hkeyed : start.Keyed) (hvalid : app.validate = .ok ())
  (htarget : target ∈ app.targets kind.scope) (halone : app.DeletesAlone start kind target)
  (hplan : app.plan kind target (start.get? (app.targetKey kind target)) = .ok action)
  (hwrite : action.write? (app.targetKey kind target) = some write)
include hw hkeyed hvalid htarget halone hplan hwrite

/-- The write for a target that is untouched works. -/
theorem exists_perform_of_untouched
    (hsame : w.store.cluster.get? (app.targetKey kind target) =
      start.get? (app.targetKey kind target)) :
    ∃ reply cluster, w.store.cluster.perform write = (.ok reply, cluster) ∧
      w.store.cluster.Confined app.metadata.uid (· = app.targetKey kind target) cluster ∧
      action.Yields (start.get? (app.targetKey kind target))
        (cluster.get? (app.targetKey kind target)) := by
  have hnow : app.plan kind target (w.store.cluster.get? (app.targetKey kind target)) =
      .ok action := by
    rw [hsame, hplan]
  have hnowAlone : app.DeletesAlone w.store.cluster kind target := by
    intro hdelete
    obtain rfl := Except.ok.inj (hnow.symm.trans hdelete)
    exact hw.alone htarget halone hplan
  rw [← hsame]
  exact Cluster.exists_perform_of_plan (hw.confined.keyed hkeyed) hvalid htarget hnowAlone hnow
    hwrite

/-- If the write is not refused, it touches nothing but its target and does what was planned. -/
theorem confined_of_effect {cluster : Cluster} {stored : Option Resource}
    (heffect : w.store.cluster.Effect write stored cluster) :
    w.store.cluster.Confined app.metadata.uid (· = app.targetKey kind target) cluster ∧
      action.Yields (start.get? (app.targetKey kind target))
        (cluster.get? (app.targetKey kind target)) := by
  rcases hw.halfway kind target htarget with hsame | hattained
  · obtain ⟨reply, cluster', hdone, hwritten⟩ :=
      hw.exists_perform_of_untouched hkeyed hvalid htarget halone hplan hwrite hsame
    obtain ⟨-, rfl⟩ := Prod.mk.inj (heffect.perform_eq.symm.trans hdone)
    exact hwritten
  · refine heffect.again (hw.confined.keyed hkeyed) hvalid htarget hplan hwrite
      ((attained_iff_yields hplan).1 hattained) ?_
    rintro rfl
    exact (hw.alone htarget halone hplan).childless

/-- A write that is refused was done before. -/
theorem attained_of_refused {reply : Reply}
    (hrefused : w.store.cluster.perform write = (reply, w.store.cluster)) :
    w.Attained app start kind target := by
  rcases hw.halfway kind target htarget with hsame | hattained
  · obtain ⟨reply', cluster, hdone, -, hyields⟩ :=
      hw.exists_perform_of_untouched hkeyed hvalid htarget halone hplan hwrite hsame
    obtain ⟨-, rfl⟩ := Prod.mk.inj (hrefused.symm.trans hdone)
    exact (attained_iff_yields hplan).2 hyields
  · exact hattained

/-- After a planned write, made at any time on the way, its target is attained, whether the write
works or is refused. -/
theorem exists_written :
    ∃ reply after, handler.call write w = (.ok reply, after) ∧ w.Onward app start after ∧
      after.Attained app start kind target := by
  rcases hperform : w.store.cluster.perform write with ⟨reply, cluster⟩
  refine ⟨reply, _, call_eq hw.calm hperform, ?_⟩
  rcases Cluster.effect_or_eq hperform with ⟨stored, heffect⟩ | rfl
  · obtain ⟨hconfined, hyields⟩ :=
      hw.confined_of_effect hkeyed hvalid htarget halone hplan hwrite heffect
    refine ⟨.of_confined hw.calm hconfined ?_ ?_, ?_⟩
    · rintro key rfl
      exact Or.inl (.of_mem kind.mem_all htarget)
    · intro other twin htwin hkey
      obtain ⟨rfl, rfl⟩ := CompositeApp.targetKey_inj hvalid htarget htwin hkey
      exact (attained_iff_yields hplan).2 hyields
    · exact (attained_iff_yields hplan).2 hyields
  · exact ⟨.of_cluster hw.calm rfl,
      hw.attained_of_refused hkeyed hvalid htarget halone hplan hwrite hperform⟩

end Write

end Underway

end World

end CompositeApps
