import CompositeApps.Cluster.Cascade

/-!
What the removal of an object takes with it. Objects are only taken out, the object itself goes,
and a set of keys that holds the owners of all its members is left alone if the removal starts
outside it.
-/

namespace CompositeApps

namespace Objects

theorem getElem?_insert (objects : Objects) (key other : ObjectKey) (r : Resource) :
    (objects.insert key r)[other]? = if key = other then some r else objects[other]? := by
  rw [Std.ExtTreeMap.getElem?_insert]
  simp only [Std.LawfulEqCmp.compare_eq_iff_eq]

theorem getElem?_erase (objects : Objects) (key other : ObjectKey) :
    (objects.erase key)[other]? = if key = other then none else objects[other]? := by
  rw [Std.ExtTreeMap.getElem?_erase]
  simp only [Std.LawfulEqCmp.compare_eq_iff_eq]

theorem getElem?_of_erase {objects : Objects} {key other : ObjectKey} {r : Resource}
    (h : (objects.erase key)[other]? = some r) : objects[other]? = some r := by
  rw [getElem?_erase] at h
  split at h
  · exact absurd h (by simp)
  · exact h

theorem mem_ownedKeys {objects : Objects} {uid : Option String} {key : ObjectKey} :
    key ∈ objects.ownedKeys uid ↔
      ∃ u r, uid = some u ∧ objects[key]? = some r ∧ r.isOwnedBy u = true := by
  cases uid with
  | none => simp [ownedKeys]
  | some u =>
    simp only [ownedKeys, List.mem_map, List.mem_filter, Prod.exists,
      Std.ExtTreeMap.mem_toList_iff_getElem?_eq_some, Option.some.injEq]
    constructor
    · intro h
      obtain ⟨k, r, ⟨hr, howned⟩, rfl⟩ := h
      exact ⟨u, r, rfl, hr, howned⟩
    · intro h
      obtain ⟨_, r, rfl, hr, howned⟩ := h
      exact ⟨key, r, ⟨hr, howned⟩, rfl⟩

theorem ownedKeys_erase_subset {objects : Objects} {uid : Option String} {key other : ObjectKey}
    (h : other ∈ ownedKeys (objects.erase key) uid) : other ∈ objects.ownedKeys uid := by
  obtain ⟨u, r, huid, hr, howned⟩ := mem_ownedKeys.1 h
  exact mem_ownedKeys.2 ⟨u, r, huid, getElem?_of_erase hr, howned⟩

theorem getElem?_of_sweep {objects : Objects} {pending : List ObjectKey} {key : ObjectKey}
    {r : Resource} (h : (objects.sweep pending)[key]? = some r) : objects[key]? = some r := by
  fun_induction sweep objects pending with
  | case1 => exact h
  | case2 objects head tail hnone ih => exact ih h
  | case3 objects head tail s hs rest ih => exact getElem?_of_erase (ih h)

/-- A set of keys that is closed under owners, seen from outside: what is not in it owns nothing
that is. -/
def OwnsNothingIn (objects : Objects) (inside : ObjectKey → Prop) : Prop :=
  ∀ key r, objects[key]? = some r → ¬ inside key →
    ∀ other ∈ objects.ownedKeys r.metadata.uid, ¬ inside other

theorem OwnsNothingIn.erase {objects : Objects} {inside : ObjectKey → Prop}
    (h : objects.OwnsNothingIn inside) (key : ObjectKey) :
    OwnsNothingIn (objects.erase key) inside := by
  intro other r hr hout owned howned
  exact h other r (getElem?_of_erase hr) hout owned (ownedKeys_erase_subset howned)

/-- A sweep that starts outside such a set stays outside it. -/
theorem getElem?_sweep_of_inside {objects : Objects} {pending : List ObjectKey}
    {inside : ObjectKey → Prop} (hclosed : objects.OwnsNothingIn inside)
    (hpending : ∀ key ∈ pending, ¬ inside key) {key : ObjectKey} (hkey : inside key) :
    (objects.sweep pending)[key]? = objects[key]? := by
  fun_induction sweep objects pending with
  | case1 => rfl
  | case2 objects head tail hnone ih =>
    exact ih hclosed fun k hk => hpending k (List.mem_cons_of_mem head hk)
  | case3 objects head tail r hr rest ih =>
    have hhead : ¬ inside head := hpending head List.mem_cons_self
    have hrest : ∀ k ∈ ownedKeys rest r.metadata.uid ++ tail, ¬ inside k := by
      intro k hk
      rcases List.mem_append.1 hk with howned | htail
      · exact hclosed head r hr hhead k (ownedKeys_erase_subset howned)
      · exact hpending k (List.mem_cons_of_mem head htail)
    rw [ih (hclosed.erase head) hrest, getElem?_erase, if_neg]
    intro hsame
    obtain rfl := hsame
    exact hhead hkey

theorem getElem?_of_remove {objects : Objects} {key other : ObjectKey} {r : Resource}
    (h : (objects.remove key)[other]? = some r) : objects[other]? = some r :=
  getElem?_of_sweep h

/-- What is not stored does not come with a sweep. -/
theorem getElem?_sweep_of_none {objects : Objects} {pending : List ObjectKey} {key : ObjectKey}
    (h : objects[key]? = none) : (objects.sweep pending)[key]? = none := by
  refine Option.eq_none_iff_forall_ne_some.2 fun r hr => ?_
  rw [getElem?_of_sweep hr] at h
  exact absurd h (by simp)

/-- What is pending when a sweep starts is gone after it. -/
theorem getElem?_sweep_of_mem {objects : Objects} {pending : List ObjectKey} {key : ObjectKey}
    (hkey : key ∈ pending) : (objects.sweep pending)[key]? = none := by
  fun_induction sweep objects pending with
  | case1 => exact absurd hkey (by simp)
  | case2 objects head tail hnone ih =>
    rcases List.mem_cons.1 hkey with rfl | htail
    · exact getElem?_sweep_of_none hnone
    · exact ih htail
  | case3 objects head tail r hr rest ih =>
    rcases List.mem_cons.1 hkey with rfl | htail
    · refine getElem?_sweep_of_none ?_
      rw [getElem?_erase, if_pos rfl]
    · exact ih (List.mem_append_right _ htail)

/-- What belongs to an object that a sweep takes out goes with it, whatever was taken out before. -/
theorem getElem?_sweep_of_owned {objects : Objects} {pending : List ObjectKey}
    {key other : ObjectKey} {r s : Resource} {uid : String} (hr : objects[key]? = some r)
    (huid : r.metadata.uid = some uid) (hs : objects[other]? = some s)
    (howned : s.isOwnedBy uid = true) (hgone : (objects.sweep pending)[key]? = none) :
    (objects.sweep pending)[other]? = none := by
  fun_induction sweep objects pending with
  | case1 => exact absurd (hr.symm.trans hgone) (by simp)
  | case2 objects head tail hnone ih => exact ih hr hs hgone
  | case3 objects head tail taken htaken rest ih =>
    by_cases hother : head = other
    · refine getElem?_sweep_of_none ?_
      rw [getElem?_erase, if_pos hother]
    · have hs' : rest[other]? = some s := by rw [getElem?_erase, if_neg hother, hs]
      by_cases hkey : head = key
      · -- the owner is taken out now, and the object is put among what is pending
        subst hkey
        obtain rfl := Option.some.inj (hr.symm.trans htaken)
        exact getElem?_sweep_of_mem
          (List.mem_append_left _ (mem_ownedKeys.2 ⟨uid, s, huid, hs', howned⟩))
      · have hr' : rest[key]? = some r := by rw [getElem?_erase, if_neg hkey, hr]
        exact ih hr' hs' hgone

theorem getElem?_remove_self (objects : Objects) (key : ObjectKey) :
    (objects.remove key)[key]? = none :=
  getElem?_sweep_of_mem List.mem_cons_self

/-- What belongs to a removed object goes with it. -/
theorem getElem?_remove_of_owned {objects : Objects} {key other : ObjectKey} {r s : Resource}
    {uid : String} (hr : objects[key]? = some r) (huid : r.metadata.uid = some uid)
    (hs : objects[other]? = some s) (howned : s.isOwnedBy uid = true) :
    (objects.remove key)[other]? = none :=
  getElem?_sweep_of_owned hr huid hs howned (getElem?_remove_self objects key)

theorem getElem?_remove_of_inside {objects : Objects} {inside : ObjectKey → Prop}
    (hclosed : objects.OwnsNothingIn inside) {key other : ObjectKey} (hkey : ¬ inside key)
    (hother : inside other) : (objects.remove key)[other]? = objects[other]? :=
  getElem?_sweep_of_inside hclosed (by simpa using hkey) hother

end Objects

end CompositeApps
