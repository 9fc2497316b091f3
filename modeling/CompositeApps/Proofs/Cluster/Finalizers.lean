import CompositeApps.Proofs.Cluster.History
import CompositeApps.Proofs.Cluster.Ownership

/-!
How long an object with finalizers stays stored. To delete it does no more than to mark it, and
calls about other objects leave it as it is, but for those that remove one to which it belongs,
directly or through others: it goes with that one, finalizers or not.
-/

namespace CompositeApps

namespace Cluster

variable {c after : Cluster} {key : ObjectKey} {r : Resource}

/-- An object with finalizers is marked when it is deleted, and stays. -/
theorem get?_delete_of_held (hkeyed : c.Keyed) (hr : c.get? key = some r)
    (hheld : r.metadata.finalizerList ≠ []) :
    (c.delete key).get? key = some (doomed (c.version + 1) r) := by
  have heffect := delete_effect c key
  generalize c.delete key = after at heffect ⊢
  cases heffect with
  | missed _ hfree => exact absurd (hr.symm.trans hfree) (by simp)
  | doomed _ stored hstored =>
    obtain rfl := Option.some.inj (hr.symm.trans hstored)
    have hkey : (doomed (c.version + 1) r).key = key := by rw [key_doomed, hkeyed key r hr]
    rw [get?_put, if_pos hkey]
  | removed _ stored hstored hfree =>
    obtain rfl := Option.some.inj (hr.symm.trans hstored)
    exact absurd (List.isEmpty_iff.1 hfree) hheld

/-- What a call about another object leaves of an object: all of it, or nothing, and nothing just if
the other object is gone after it and takes along what goes with it. -/
structure Spared (c : Cluster) (key : ObjectKey) (r : Resource) (other : ObjectKey)
    (after : Cluster) : Prop where
  whole : after.get? key = some r ∨ after.get? key = none
  gone_iff : after.get? key = none ↔ after.get? other = none ∧ c.GoesWith key other

/-- An object that stays is spared if the other one stays, too, or was not there. -/
theorem Spared.of_kept {other : ObjectKey} (hkept : after.get? key = some r)
    (hother : c.GoesWith key other → after.get? other ≠ none) : c.Spared key r other after where
  whole := Or.inl hkept
  gone_iff := by
    refine ⟨fun hgone => ?_, fun h => absurd h.1 (hother h.2)⟩
    rw [hkept] at hgone
    exact absurd hgone (by simp)

theorem Spared.refl {other : ObjectKey} (hr : c.get? key = some r) (hother : other ≠ key) :
    c.Spared key r other c := by
  refine .of_kept hr fun hgoes hnone => ?_
  obtain ⟨s, hs⟩ := hgoes.exists_stored hother
  rw [hs] at hnone
  exact absurd hnone (by simp)

theorem Spared.put {other : ObjectKey} {s : Resource} (hr : c.get? key = some r)
    (hs : s.key = other) (hother : other ≠ key) : c.Spared key r other (c.put s) := by
  subst hs
  refine .of_kept ?_ fun _ => ?_
  · rw [get?_put, if_neg hother, hr]
  · rw [get?_put_self]
    exact Option.some_ne_none s

theorem Spared.remove (hr : c.get? key = some r) (other : ObjectKey) :
    c.Spared key r other { c with objects := c.objects.remove other } where
  whole := by
    by_cases hother : c.GoesWith key other
    · exact Or.inr (get?_remove_of_goesWith hother)
    · exact Or.inl ((get?_remove_of_not_goesWith hother).trans hr)
  gone_iff := by
    refine (get?_remove_eq_none_iff hr).trans ⟨fun hgoes => ⟨?_, hgoes⟩, And.right⟩
    exact Objects.getElem?_remove_self c.objects other

/-- Every call about another object spares an object in this sense. -/
theorem Effect.spared {call : Call} {reply : Option Resource} (h : c.Effect call reply after)
    (hkeyed : c.Keyed) (hr : c.get? key = some r) (hother : call.key ≠ key) :
    c.Spared key r call.key after := by
  cases h with
  | found | missed => exact .refl hr hother
  | created r' => exact .put hr (key_newborn _ r') hother
  | replaced r' stored => exact .put hr (key_replacement stored r' _) hother
  | reported r' stored hstored =>
    refine .put hr ?_ hother
    rw [key_stamped, key_withStatusOf, hkeyed r'.key stored hstored]
    rfl
  | doomed k stored hstored =>
    refine .put hr ?_ hother
    rw [key_doomed, hkeyed k stored hstored]
    rfl
  | removed k => exact .remove hr k
  | released r' stored hstored =>
    have hkey := key_replacement stored r' (c.version + 1)
    have hgoes : (c.put (replacement stored r' (c.version + 1))).GoesWith key r'.key ↔
        c.GoesWith key r'.key := by
      rw [← hkey]
      exact goesWith_put_iff (hkey.symm ▸ hstored) (by rw [metadata_replacement])
    have hput : (c.put (replacement stored r' (c.version + 1))).get? key = some r := by
      rw [get?_put, if_neg (hkey.symm ▸ hother), hr]
    obtain ⟨hwhole, hgone⟩ := Spared.remove hput r'.key
    exact ⟨hwhole, hgone.trans (and_congr_right fun _ => hgoes)⟩

end Cluster

namespace FaultyCluster

variable {s : FaultyCluster} {key : ObjectKey} {r : Resource}

/-- To delete an object with finalizers marks it, unless a fault keeps the call from it. -/
theorem get?_perform_delete (hkeyed : s.cluster.Keyed) (hr : s.cluster.get? key = some r)
    (hheld : r.metadata.finalizerList ≠ []) :
    (s.perform (.delete key)).2.cluster.get? key =
      some (if (s.faultOf? .delete key.kind).isNone
        then Cluster.doomed (s.cluster.version + 1) r else r) := by
  cases hfault : s.faultOf? .delete key.kind with
  | none =>
    rw [perform_of_faultless hfault]
    exact Cluster.get?_delete_of_held hkeyed hr hheld
  | some f =>
    rw [perform_of_fault hfault]
    exact hr

theorem spared_perform (hkeyed : s.cluster.Keyed) (hr : s.cluster.get? key = some r) {c : Call}
    (hother : c.key ≠ key) : s.cluster.Spared key r c.key (s.perform c).2.cluster := by
  rcases s.perform_cases c with ⟨stored, heffect, -⟩ | ⟨-, hsame⟩
  · exact heffect.spared hkeyed hr hother
  · rw [hsame]
    exact .refl hr hother

/-- What finalizers hold. After any operations, with any faults, an object with finalizers that is
deleted stays, and nothing but the mark of its deletion and its version is new; if a fault keeps the
call from it, not even these are. A call about another object leaves it as it is, or takes it out:
just if that object is gone after the call and the one with finalizers belongs to it, directly or
through others. -/
theorem operateAll_held (ops : List Operation)
    (hstored : (operateAll {} ops).cluster.get? key = some r)
    (hheld : r.metadata.finalizerList ≠ []) :
    let s := operateAll {} ops
    (s.perform (.delete key)).2.cluster.get? key =
        some (if (s.faultOf? .delete key.kind).isNone
          then Cluster.doomed (s.cluster.version + 1) r else r) ∧
      ∀ c : Call, c.key ≠ key → s.cluster.Spared key r c.key (s.perform c).2.cluster := by
  intro s
  have hkeyed : s.cluster.Keyed := (reachable_operateAll .empty ops).versioned.keyed
  exact ⟨get?_perform_delete hkeyed hstored hheld, fun c => spared_perform hkeyed hstored⟩

end FaultyCluster

namespace Example

def millKey : ObjectKey :=
  ⟨.child .deployment, "default", "mill-v1"⟩

def sluiceKey : ObjectKey :=
  ⟨.child .service, "default", "sluice"⟩

def mill : Resource :=
  .child (.deployment { metadata := {
    name := some "mill-v1", namespaceName := some "default", uid := some "mill-uid" } })

def sluice : Resource :=
  .child (.service { metadata := {
    name := some "sluice", namespaceName := some "default", uid := some "sluice-uid"
    finalizers := some ["example.com/drain"]
    ownerReferences := some [{
      apiVersion := "apps/v1", kind := "Deployment", name := "mill-v1", uid := "mill-uid"
      controller := none, blockOwnerDeletion := none }] } })

def milling : List Operation :=
  [.seed mill, .seed sluice]

def openSluice : Resource :=
  Cluster.stamped 2 sluice

theorem milling_sluice :
    (FaultyCluster.operateAll {} milling).cluster.get? sluiceKey = some openSluice :=
  Cluster.get?_put_self _ _

theorem milling_mill :
    (FaultyCluster.operateAll {} milling).cluster.get? millKey =
      some (Cluster.stamped 1 mill) := by
  decide +kernel

end Example

namespace FaultyCluster

/-- A service with a finalizer stays when it is deleted. Whether it stays when the mill is deleted
depends on whether it belongs to it. -/
theorem operateAll_held_example :
    (operateAll {} Example.milling).cluster.get? Example.sluiceKey = some Example.openSluice ∧
      Example.openSluice.metadata.finalizerList ≠ [] ∧ Example.millKey ≠ Example.sluiceKey ∧
      ((operateAll {} Example.milling).perform (.delete Example.sluiceKey)).2.cluster.get?
        Example.sluiceKey = some (Cluster.doomed 3 Example.openSluice) ∧
      (operateAll {} Example.milling).cluster.Spared Example.sluiceKey Example.openSluice
        Example.millKey
        ((operateAll {} Example.milling).perform (.delete Example.millKey)).2.cluster := by
  have hheld : Example.openSluice.metadata.finalizerList ≠ [] := by decide
  have hother : Example.millKey ≠ Example.sluiceKey := by decide
  obtain ⟨hmarked, hspared⟩ := operateAll_held Example.milling Example.milling_sluice hheld
  exact ⟨Example.milling_sluice, hheld, hother, hmarked,
    hspared (.delete Example.millKey) hother⟩

/-- A service with a finalizer is lost when the mill is deleted. -/
theorem finalizer_lost_with_owner :
    (operateAll {} Example.milling).cluster.get? Example.sluiceKey = some Example.openSluice ∧
      Example.openSluice.metadata.finalizerList ≠ [] ∧ Example.millKey ≠ Example.sluiceKey ∧
      ((operateAll {} Example.milling).perform (.delete Example.millKey)).2.cluster.get?
        Example.sluiceKey = none := by
  refine ⟨Example.milling_sluice, by decide, by decide, ?_⟩
  exact Objects.getElem?_remove_of_owned Example.milling_mill rfl Example.milling_sluice
    (by decide)

end FaultyCluster

end CompositeApps
