import CompositeApps.Proofs.Cluster.Effect
import Mathlib.Logic.Relation

/-!
To what an object belongs, directly or through others. A call about another object leaves it as it
is, unless that is one of those to which it belongs. What is needed for this, and kept by such
calls, is that none of the other objects takes on a uid that one of these lists.
-/

namespace CompositeApps

namespace Cluster

def Owns (c : Cluster) (owner key : ObjectKey) : Prop :=
  ∃ r s uid, c.get? owner = some r ∧ r.metadata.uid = some uid ∧ c.get? key = some s ∧
    s.isOwnedBy uid = true

/-- What an object goes with: itself, what it belongs to, what that belongs to, and so on. -/
def GoesWith (c : Cluster) (key owner : ObjectKey) : Prop :=
  Relation.ReflTransGen c.Owns owner key

def AwaitsNoOwner (c : Cluster) (key : ObjectKey) : Prop :=
  ∀ owner r n, c.GoesWith key owner → c.get? owner = some r → c.version < n →
    r.isOwnedBy (uidText n) = false

variable {c start after : Cluster} {key owner : ObjectKey}

theorem GoesWith.refl (c : Cluster) (key : ObjectKey) : c.GoesWith key key :=
  Relation.ReflTransGen.refl

theorem GoesWith.of_owns {other : ObjectKey} (h : c.GoesWith key other)
    (howns : c.Owns owner other) : c.GoesWith key owner :=
  Relation.ReflTransGen.head howns h

/-- A set that holds an object, and with each object what owns it, holds all it goes with. -/
theorem GoesWith.of_closed (h : c.GoesWith key owner) (inside : ObjectKey → Prop)
    (hclosed : ∀ other key, inside key → c.Owns other key → inside other) (hkey : inside key) :
    inside owner := by
  induction h using Relation.ReflTransGen.head_induction_on with
  | refl => exact hkey
  | head howns _ ih => exact hclosed _ _ ih howns

/-- An object whose only owner belongs to nothing goes with that owner alone. -/
theorem GoesWith.eq_or_eq {top other : ObjectKey} {r s : Resource} {uid : String}
    (h : c.GoesWith key other) (hr : c.get? key = some r)
    (hsole : ∀ u, r.isOwnedBy u = true → u = uid)
    (hunique : ∀ o q, c.get? o = some q → q.metadata.uid = some uid → o = top)
    (hs : c.get? top = some s) (hfree : ∀ u, s.isOwnedBy u = false) :
    other = key ∨ other = top := by
  refine h.of_closed (fun k => k = key ∨ k = top) ?_ (Or.inl rfl)
  intro o k hk howns
  obtain ⟨q, owned, u, hq, hu, howned, hlisted⟩ := howns
  rcases hk with rfl | rfl
  · obtain rfl := Option.some.inj (hr.symm.trans howned)
    rw [hsole u hlisted] at hu
    exact Or.inr (hunique o q hq hu)
  · obtain rfl := Option.some.inj (hs.symm.trans howned)
    rw [hfree u] at hlisted
    exact absurd hlisted (by simp)

/-- An object stays when one is removed that it does not go with. -/
theorem get?_remove_of_not_goesWith {other : ObjectKey} (hother : ¬ c.GoesWith key other) :
    (c.objects.remove other)[key]? = c.get? key := by
  have hclosed : c.objects.OwnsNothingIn (c.GoesWith key) := by
    intro k r hr hk owned howned hinside
    obtain ⟨uid, s, huid, hs, hlisted⟩ := Objects.mem_ownedKeys.1 howned
    exact hk (hinside.of_owns ⟨r, s, uid, hr, huid, hs, hlisted⟩)
  exact Objects.getElem?_remove_of_inside hclosed hother (.refl c key)

/-- An object goes when one is removed that it goes with: with its owner goes what belongs to it. -/
theorem get?_remove_of_goesWith {other : ObjectKey} (hother : c.GoesWith key other) :
    (c.objects.remove other)[key]? = none := by
  induction hother with
  | refl => exact Objects.getElem?_remove_self c.objects other
  | tail _ howns ih =>
    obtain ⟨r, s, uid, hr, huid, hs, hlisted⟩ := howns
    exact Objects.getElem?_sweep_of_owned hr huid hs hlisted ih

/-- A removal takes out just the objects that go with the one that is removed. -/
theorem get?_remove_eq_none_iff {other : ObjectKey} {r : Resource} (hr : c.get? key = some r) :
    (c.objects.remove other)[key]? = none ↔ c.GoesWith key other := by
  refine ⟨fun hgone => ?_, get?_remove_of_goesWith⟩
  refine Classical.byContradiction fun hother => ?_
  rw [get?_remove_of_not_goesWith hother, hr] at hgone
  exact absurd hgone (by simp)

/-- What an object goes with is stored, unless it is the object itself. -/
theorem GoesWith.exists_stored {other : ObjectKey} (h : c.GoesWith key other)
    (hother : other ≠ key) : ∃ r, c.get? other = some r := by
  rcases Relation.ReflTransGen.cases_head h with rfl | ⟨_, howns, -⟩
  · exact absurd rfl hother
  · obtain ⟨r, -, -, hr, -⟩ := howns
    exact ⟨r, hr⟩

/-- An object that belongs to no other one stays when another one is removed. -/
theorem get?_remove_of_unowned {other : ObjectKey} (hother : other ≠ key)
    (hunowned : ∀ owner, owner ≠ key → ¬ c.Owns owner key) :
    (c.objects.remove other)[key]? = c.get? key := by
  refine get?_remove_of_not_goesWith fun hgoes => hother (hgoes.of_closed (· = key) ?_ rfl)
  rintro owner k rfl howns
  exact Classical.byContradiction fun hne => hunowned owner hne howns

/-- Putting an object with the uid of the one under its key makes it own nothing more. -/
theorem Owns.of_put {r stored : Resource} (h : (c.put r).Owns owner key) (hkey : r.key ≠ key)
    (hstored : c.get? r.key = some stored) (huid : r.metadata.uid = stored.metadata.uid) :
    c.Owns owner key := by
  obtain ⟨o, s, uid, ho, houid, hs, hlisted⟩ := h
  rw [get?_put, if_neg hkey] at hs
  rw [get?_put] at ho
  split at ho
  · rename_i hsame
    obtain rfl := Option.some.inj ho
    rw [hsame] at hstored
    exact ⟨stored, s, uid, hstored, huid.symm.trans houid, hs, hlisted⟩
  · exact ⟨o, s, uid, ho, houid, hs, hlisted⟩

/-- An object with the uid of the one under its key owns what that one did. -/
theorem Owns.put {r stored : Resource} (h : c.Owns owner key) (hkey : r.key ≠ key)
    (hstored : c.get? r.key = some stored) (huid : r.metadata.uid = stored.metadata.uid) :
    (c.put r).Owns owner key := by
  obtain ⟨o, s, uid, ho, houid, hs, hlisted⟩ := h
  have hs' : (c.put r).get? key = some s := by rw [get?_put, if_neg hkey, hs]
  by_cases howner : r.key = owner
  · subst howner
    obtain rfl := Option.some.inj (hstored.symm.trans ho)
    exact ⟨r, s, uid, get?_put_self c r, huid.trans houid, hs', hlisted⟩
  · exact ⟨o, s, uid, by rw [get?_put, if_neg howner, ho], houid, hs', hlisted⟩

/-- What belongs to the objects below one does not depend on to what that one belongs. -/
theorem GoesWith.of_below {other : Cluster} {top : ObjectKey} (h : c.GoesWith key top)
    (hbelow : ∀ owner k, top ≠ k → c.Owns owner k → other.Owns owner k) :
    other.GoesWith key top := by
  induction h with
  | refl => exact .refl other top
  | @tail _ next _ howns ih =>
    by_cases hnext : top = next
    · exact hnext ▸ .refl other top
    · exact ih.tail (hbelow _ next hnext howns)

/-- What goes with an object does not change when it is replaced by one with its uid. -/
theorem goesWith_put_iff {r stored : Resource} (hstored : c.get? r.key = some stored)
    (huid : r.metadata.uid = stored.metadata.uid) :
    (c.put r).GoesWith key r.key ↔ c.GoesWith key r.key :=
  ⟨fun h => h.of_below fun _ _ hkey howns => howns.of_put hkey hstored huid,
    fun h => h.of_below fun _ _ hkey howns => howns.put hkey hstored huid⟩

/-- A uid that is none of those an object depends on: some object that it does not go with had it
at the start, or it was given out since. -/
def Irrelevant (start : Cluster) (key : ObjectKey) (uid : String) : Prop :=
  (∃ other s, ¬ start.GoesWith key other ∧ start.get? other = some s ∧
    s.metadata.uid = some uid) ∨ ∃ n, start.version < n ∧ uid = uidText n

theorem Irrelevant.isOwnedBy_eq_false {uid : String} {r : Resource}
    (h : start.Irrelevant key uid) (hawaits : start.AwaitsNoOwner key)
    (howner : start.GoesWith key owner) (hr : start.get? owner = some r) :
    r.isOwnedBy uid = false := by
  rcases h with ⟨other, s, hother, hs, huid⟩ | ⟨n, hn, rfl⟩
  · cases hlisted : r.isOwnedBy uid with
    | false => rfl
    | true => exact absurd (howner.of_owns ⟨s, r, uid, hs, huid, hr, hlisted⟩) hother
  · exact hawaits owner r n howner hr hn

/-- A later state of a cluster in which an object and all it goes with are as they were, and the
uids of all other objects do not matter to it. -/
structure Shelters (start : Cluster) (key : ObjectKey) (c : Cluster) : Prop where
  keyed : c.Keyed
  version_le : start.version ≤ c.version
  same : ∀ owner, start.GoesWith key owner → c.get? owner = start.get? owner
  irrelevant : ∀ other r uid, ¬ start.GoesWith key other → c.get? other = some r →
    r.metadata.uid = some uid → start.Irrelevant key uid

namespace Shelters

theorem refl (hkeyed : start.Keyed) : start.Shelters key start where
  keyed := hkeyed
  version_le := Nat.le_refl _
  same _ _ := rfl
  irrelevant other r _ hother hr huid := Or.inl ⟨other, r, hother, hr, huid⟩

theorem put (h : start.Shelters key c) {r : Resource} (hr : ¬ start.GoesWith key r.key)
    (huid : ∀ uid, r.metadata.uid = some uid → start.Irrelevant key uid) :
    start.Shelters key (c.put r) where
  keyed := h.keyed.put r
  version_le := Nat.le_succ_of_le h.version_le
  same owner howner := by
    rw [get?_put_of_ne, h.same owner howner]
    intro hsame
    obtain rfl := hsame
    exact hr howner
  irrelevant other s uid hother hs hsuid := by
    rcases eq_or_get?_of_put hs with rfl | hs
    · exact huid uid hsuid
    · exact h.irrelevant other s uid hother hs hsuid

theorem remove (h : start.Shelters key c) (hawaits : start.AwaitsNoOwner key) {other : ObjectKey}
    (hother : ¬ start.GoesWith key other) :
    start.Shelters key { c with objects := c.objects.remove other } where
  keyed := h.keyed.remove other
  version_le := h.version_le
  same owner howner := by
    have hclosed : c.objects.OwnsNothingIn (start.GoesWith key) := by
      intro k r hr hk owned howned hinside
      obtain ⟨uid, s, huid, hs, hlisted⟩ := Objects.mem_ownedKeys.1 howned
      have hstart : start.get? owned = some s := (h.same owned hinside).symm.trans hs
      have hfree := (h.irrelevant k r uid hk hr huid).isOwnedBy_eq_false hawaits hinside hstart
      rw [hfree] at hlisted
      exact absurd hlisted (by simp)
    rw [← h.same owner howner]
    exact Objects.getElem?_remove_of_inside hclosed hother howner
  irrelevant k r uid hk hr := h.irrelevant k r uid hk (Objects.getElem?_of_remove hr)

/-- A call about an object that the one under the key does not go with. -/
theorem effect {call : Call} {reply : Option Resource} (h : start.Shelters key c)
    (hawaits : start.AwaitsNoOwner key) (hcall : ¬ start.GoesWith key call.key)
    (heffect : c.Effect call reply after) : start.Shelters key after := by
  have hreplaced : ∀ r stored, ¬ start.GoesWith key r.key → c.get? r.key = some stored →
      start.Shelters key (c.put (replacement stored r (c.version + 1))) := by
    intro r stored hr hstored
    refine h.put (by rwa [key_replacement]) fun uid huid => ?_
    rw [metadata_replacement] at huid
    exact h.irrelevant r.key stored uid hr hstored huid
  cases heffect with
  | found | missed => exact h
  | created r =>
    refine h.put (by rwa [key_newborn]) fun uid huid => ?_
    rw [metadata_newborn] at huid
    exact Or.inr ⟨c.version + 1, Nat.lt_succ_of_le h.version_le, (Option.some.inj huid).symm⟩
  | replaced r stored hstored => exact hreplaced r stored hcall hstored
  | released r stored hstored => exact (hreplaced r stored hcall hstored).remove hawaits hcall
  | reported r stored hstored =>
    have hkey : stored.key = r.key := h.keyed r.key stored hstored
    refine h.put (by rwa [key_stamped, key_withStatusOf, hkey]) fun uid huid => ?_
    rw [metadata_stamped, Resource.metadata_withStatusOf] at huid
    exact h.irrelevant r.key stored uid hcall hstored huid
  | doomed other stored hstored =>
    have hkey : stored.key = other := h.keyed other stored hstored
    refine h.put (by rwa [key_doomed, hkey]) fun uid huid => ?_
    rw [metadata_doomed] at huid
    exact h.irrelevant other stored uid hcall hstored huid
  | removed other => exact h.remove hawaits hcall

end Shelters

end Cluster

end CompositeApps
