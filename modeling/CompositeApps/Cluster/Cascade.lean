import CompositeApps.Cluster.Resource

/-!
Removing an object together with everything that it owns, directly or through others. An object
belongs to another one if one of its owner references carries the other's uid.
-/

namespace CompositeApps

def Resource.isOwnedBy (uid : String) (r : Resource) : Bool :=
  r.metadata.owners.any (·.uid = uid)

namespace Objects

def ownedKeys (objects : Objects) (uid : Option String) : List ObjectKey :=
  match uid with
  | some uid => (objects.toList.filter fun (_, r) => r.isOwnedBy uid).map (·.1)
  | none => []

/-- Taking out an object that is stored leaves fewer objects. -/
theorem size_erase_lt {objects : Objects} {key : ObjectKey} {r : Resource}
    (h : objects[key]? = some r) : (objects.erase key).size < objects.size := by
  have hmem : key ∈ objects := by
    rw [Std.ExtTreeMap.mem_iff_isSome_getElem?, h]
    rfl
  have hpos : objects.size ≠ 0 := by
    intro hzero
    have hempty : objects.isEmpty = true := by
      rw [Std.ExtTreeMap.isEmpty_eq_size_beq_zero, hzero]
      rfl
    rw [Std.ExtTreeMap.isEmpty_iff] at hempty
    rw [hempty] at hmem
    exact Std.ExtTreeMap.not_mem_empty hmem
  rw [Std.ExtTreeMap.size_erase, if_pos (Std.ExtTreeMap.contains_iff_mem.2 hmem)]
  omega

/-- Removes the pending objects and everything they own, each as soon as its owner is gone. -/
def sweep (objects : Objects) (pending : List ObjectKey) : Objects :=
  match pending with
  | [] => objects
  | key :: pending =>
    match _h : objects[key]? with
    | none => sweep objects pending
    | some r =>
      let rest : Objects := objects.erase key
      sweep rest (ownedKeys rest r.metadata.uid ++ pending)
termination_by (objects.size, pending.length)
decreasing_by
  · exact Prod.Lex.right _ (by simp)
  · exact Prod.Lex.left _ _ (size_erase_lt _h)

def remove (objects : Objects) (key : ObjectKey) : Objects :=
  sweep objects [key]

end Objects

end CompositeApps
