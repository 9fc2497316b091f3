import CompositeApps.Proofs.Cluster.Ownership

/-!
How a removal proceeds, and what it takes out. First the object itself is taken out. Then those
that belong to it are removed one after the other in the same way, each with all that belongs to it
before the next. Main statement: whatever the owner references are, with cycles among them or not,
removals nest no deeper than there are objects, there is one outcome, and what is taken out are the
objects that go with the first one.
-/

namespace CompositeApps

namespace Objects

/-- Objects are removed in turn: each one that is still stored is taken out, and what then belongs
to it is removed before the next one. The number bounds how deep removals nest. -/
inductive Removal : Nat → Objects → List ObjectKey → Objects → Prop where
  | done (depth : Nat) (objects : Objects) : Removal depth objects [] objects
  | missing {depth : Nat} {objects after : Objects} {key : ObjectKey} {keys : List ObjectKey}
      (hnone : objects[key]? = none) (hkeys : Removal depth objects keys after) :
      Removal depth objects (key :: keys) after
  | taken {depth : Nat} {objects between after : Objects} {key : ObjectKey} {r : Resource}
      {keys : List ObjectKey} (hr : objects[key]? = some r)
      (howned : Removal depth (objects.erase key)
        (ownedKeys (objects.erase key) r.metadata.uid) between)
      (hkeys : Removal (depth + 1) between keys after) :
      Removal (depth + 1) objects (key :: keys) after

variable {objects : Objects} {key : ObjectKey} {keys : List ObjectKey}

theorem sweep_nil (objects : Objects) : objects.sweep [] = objects := by
  rw [sweep]

theorem sweep_of_missing (hnone : objects[key]? = none) :
    objects.sweep (key :: keys) = objects.sweep keys := by
  rw [sweep]
  split
  · rfl
  · rename_i hr
    exact absurd (hnone.symm.trans hr) (by simp)

theorem sweep_of_stored {r : Resource} (hr : objects[key]? = some r) :
    objects.sweep (key :: keys) =
      sweep (objects.erase key) (ownedKeys (objects.erase key) r.metadata.uid ++ keys) := by
  rw [sweep]
  split
  · rename_i hnone
    exact absurd (hr.symm.trans hnone) (by simp)
  · rename_i s hs
    obtain rfl := Option.some.inj (hr.symm.trans hs)
    rfl

/-- What is pending is swept from the front: the rest waits until all that the front takes along is
gone. -/
theorem sweep_append (objects : Objects) (first second : List ObjectKey) :
    objects.sweep (first ++ second) = (objects.sweep first).sweep second := by
  fun_induction sweep objects first with
  | case1 => rfl
  | case2 objects key keys hnone ih => rw [List.cons_append, sweep_of_missing hnone, ih]
  | case3 objects key keys r hr rest ih =>
    rw [List.cons_append, sweep_of_stored hr, ← List.append_assoc, ih]

theorem size_sweep_le (objects : Objects) (keys : List ObjectKey) :
    (objects.sweep keys).size ≤ objects.size := by
  fun_induction sweep objects keys with
  | case1 => exact Nat.le_refl _
  | case2 objects key keys hnone ih => exact ih
  | case3 objects key keys r hr rest ih => exact Nat.le_trans ih (Nat.le_of_lt (size_erase_lt hr))

/-- A removal has the outcome of the sweep, so there is one at most. -/
theorem Removal.eq_sweep {depth : Nat} {after : Objects} (h : Removal depth objects keys after) :
    after = objects.sweep keys := by
  induction h with
  | done _ objects => exact (sweep_nil objects).symm
  | missing hnone _ ih => rw [sweep_of_missing hnone, ih]
  | taken hr _ _ ihowned ihkeys => rw [sweep_of_stored hr, sweep_append, ← ihowned, ihkeys]

/-- A removal comes to an end: one that starts while another is under way has an object less to
begin with. -/
theorem removal_sweep {depth : Nat} (hsize : objects.size ≤ depth) (keys : List ObjectKey) :
    Removal depth objects keys (objects.sweep keys) := by
  -- The outer induction is on how deep removals nest, the inner one on what is still pending.
  induction depth using Nat.strongRecOn generalizing objects keys with
  | ind depth ihdepth =>
    induction keys generalizing objects with
    | nil =>
      rw [sweep_nil]
      exact .done depth objects
    | cons key keys ih =>
      cases hkey : objects[key]? with
      | none =>
        rw [sweep_of_missing hkey]
        exact .missing hkey (ih hsize)
      | some r =>
        have hless : (objects.erase key).size < objects.size := size_erase_lt hkey
        obtain ⟨below, rfl⟩ : ∃ below, depth = below + 1 := Nat.exists_eq_add_one.2 (by omega)
        have howned : Removal below (objects.erase key) _ _ :=
          ihdepth below (Nat.lt_succ_self below) (by omega)
            (ownedKeys (objects.erase key) r.metadata.uid)
        have hbetween := size_sweep_le (objects.erase key)
          (ownedKeys (objects.erase key) r.metadata.uid)
        rw [sweep_of_stored hkey, sweep_append]
        exact .taken hkey howned (ih (by omega))

theorem remove_eq_self_iff : objects.remove key = objects ↔ objects[key]? = none := by
  constructor
  · intro hsame
    rw [← hsame]
    exact getElem?_remove_self objects key
  · intro hnone
    rw [remove, sweep_of_missing hnone, sweep_nil]

end Objects

namespace Cluster

/-- What a removal takes out. It comes to an end, nested no deeper than there are objects, and it
has one outcome. What is stored then are the objects that were stored and do not go with the one
that is removed, each as it was. Nothing is removed just if that one is not stored. -/
theorem removal_exact (c : Cluster) (key : ObjectKey) :
    c.objects.Removal c.objects.size [key] (c.objects.remove key) ∧
    (∀ after, (∃ depth, Objects.Removal depth c.objects [key] after) ↔
      after = c.objects.remove key) ∧
    (∀ other r, (c.objects.remove key)[other]? = some r ↔
      c.get? other = some r ∧ ¬ c.GoesWith other key) ∧
    (c.objects.remove key = c.objects ↔ c.get? key = none) := by
  have hends : c.objects.Removal c.objects.size [key] (c.objects.remove key) :=
    Objects.removal_sweep (Nat.le_refl _) [key]
  refine ⟨hends, fun after => ⟨?_, ?_⟩, fun other r => ?_, Objects.remove_eq_self_iff⟩
  · rintro ⟨_, hafter⟩
    exact hafter.eq_sweep
  · rintro rfl
    exact ⟨_, hends⟩
  · by_cases hgoes : c.GoesWith other key
    · rw [get?_remove_of_goesWith hgoes]
      exact ⟨fun h => absurd h (by simp), fun h => absurd hgoes h.2⟩
    · rw [get?_remove_of_not_goesWith hgoes]
      exact ⟨fun h => ⟨h, hgoes⟩, And.left⟩

end Cluster

end CompositeApps
