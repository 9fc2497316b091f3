import CompositeApps.Proofs.Cluster.Effect

/-!
When a call succeeds, and how far it reaches: writes of one object leave all others as they are,
unless objects go with one that is deleted.
-/

namespace CompositeApps

theorem ObjectMeta.checkVersion_of_eq {stored incoming : ObjectMeta}
    (h : incoming.resourceVersion = stored.resourceVersion) :
    stored.checkVersion incoming = .ok () := by
  unfold checkVersion
  rw [h]
  split
  · rfl
  · rename_i v hv
    rw [if_pos hv]

theorem Resource.isOwnedBy_congr {r s : Resource} {uid : String}
    (h : r.metadata.ownerReferences = s.metadata.ownerReferences) :
    r.isOwnedBy uid = s.isOwnedBy uid := by
  simp only [isOwnedBy, ObjectMeta.owners, h]

namespace Cluster

variable {c : Cluster}

theorem perform_create_of_some {r stored : Resource} (hstored : c.get? r.key = some stored) :
    c.perform (.create r) = (.error (.api 409 (r.kind.name ++ " " ++ r.key.name ++
      " already exists")), c) := by
  have hmem : r.key ∈ c.objects := by
    rw [Std.ExtTreeMap.mem_iff_isSome_getElem?]
    exact Option.isSome_of_mem hstored
  simp only [perform, create, if_pos hmem]
  rfl

theorem replacement_isReleased_of_live {r stored : Resource} (version : Nat)
    (hlive : stored.metadata.isTerminating = false) :
    (replacement stored r version).metadata.isReleased = false := by
  rw [metadata_replacement, ObjectMeta.isReleased, ObjectMeta.isTerminating]
  rw [ObjectMeta.isTerminating] at hlive
  simp only [hlive, Bool.false_and]

/-- A replacement on the basis of the stored version works. -/
theorem Effect.replaced_of_current {r stored : Resource} (hstored : c.get? r.key = some stored)
    (hversion : r.metadata.resourceVersion = stored.metadata.resourceVersion)
    (hlive : stored.metadata.isTerminating = false) :
    c.Effect (.replace r) (some (replacement stored r (c.version + 1)))
      (c.put (replacement stored r (c.version + 1))) :=
  .replaced r stored hstored (ObjectMeta.checkVersion_of_eq hversion)
    (replacement_isReleased_of_live _ hlive)

theorem Effect.reported_of_current {r stored : Resource} (hstored : c.get? r.key = some stored)
    (hversion : r.metadata.resourceVersion = stored.metadata.resourceVersion) :
    c.Effect (.replaceStatus r) (some (stamped (c.version + 1) (stored.withStatusOf r)))
      (c.put (stamped (c.version + 1) (stored.withStatusOf r))) :=
  .reported r stored hstored (ObjectMeta.checkVersion_of_eq hversion)

def Unlisted (c : Cluster) (uid : String) : Prop :=
  ∀ key r, c.get? key = some r → r.isOwnedBy uid = false

instance (c : Cluster) (uid : String) : Decidable (c.Unlisted uid) :=
  decidable_of_iff' _ forall_get?_iff

theorem Unlisted.empty {uid : String} : Unlisted {} uid := by
  intro key r hr
  rw [get?_empty] at hr
  exact absurd hr (by simp)

theorem Unlisted.put {uid : String} (h : c.Unlisted uid) {r : Resource}
    (hr : r.isOwnedBy uid = false) : (c.put r).Unlisted uid := by
  intro key s hs
  rw [get?_put] at hs
  split at hs
  · rw [← Option.some.inj hs]
    exact hr
  · exact h key s hs

theorem Unlisted.remove {uid : String} (h : c.Unlisted uid) (key : ObjectKey) :
    Unlisted { c with objects := c.objects.remove key } uid :=
  fun other r hr => h other r (Objects.getElem?_of_remove hr)

def Childless (c : Cluster) (key : ObjectKey) : Prop :=
  ∀ r uid, c.get? key = some r → r.metadata.uid = some uid → c.Unlisted uid

theorem Childless.getElem?_remove {key other : ObjectKey} (h : c.Childless key)
    (hother : other ≠ key) : (c.objects.remove key)[other]? = c.get? other := by
  have hclosed : c.objects.OwnsNothingIn (· ≠ key) := by
    intro k r hr hk owned howned
    obtain ⟨uid, s, huid, hs, hlisted⟩ := Objects.mem_ownedKeys.1 howned
    obtain rfl : k = key := Decidable.not_not.1 hk
    exact absurd hlisted (by simp [h r uid hr huid owned s hs])
  exact Objects.getElem?_remove_of_inside hclosed (by simp) hother

/-- A cluster that differs from another one in nothing but the objects under some keys, and in which
no object has a new owner but for the given one. -/
structure Confined (c : Cluster) (owner : Option String) (keys : ObjectKey → Prop)
    (after : Cluster) : Prop where
  frame : ∀ key, ¬ keys key → after.get? key = c.get? key
  keyed : c.Keyed → after.Keyed
  unlisted : ∀ uid, owner ≠ some uid → c.Unlisted uid → after.Unlisted uid

namespace Confined

variable {owner : Option String} {keys others : ObjectKey → Prop} {mid after : Cluster}

theorem refl (c : Cluster) (owner : Option String) (keys : ObjectKey → Prop) :
    c.Confined owner keys c :=
  ⟨fun _ _ => rfl, id, fun _ _ => id⟩

theorem trans (h : c.Confined owner keys mid) (h' : mid.Confined owner others after) :
    c.Confined owner (fun key => keys key ∨ others key) after where
  frame key hkey := (h'.frame key fun hk => hkey (Or.inr hk)).trans
    (h.frame key fun hk => hkey (Or.inl hk))
  keyed hkeyed := h'.keyed (h.keyed hkeyed)
  unlisted uid howner hc := h'.unlisted uid howner (h.unlisted uid howner hc)

theorem mono (h : c.Confined owner keys after) (hkeys : ∀ key, keys key → others key) :
    c.Confined owner others after where
  frame key hkey := h.frame key fun hk => hkey (hkeys key hk)
  keyed := h.keyed
  unlisted := h.unlisted

theorem put (r : Resource) (hr : ∀ uid, owner ≠ some uid → c.Unlisted uid →
    r.isOwnedBy uid = false) : c.Confined owner (· = r.key) (c.put r) where
  frame _ hkey := get?_put_of_ne hkey
  keyed hkeyed := hkeyed.put r
  unlisted uid howner hc := hc.put (hr uid howner hc)

theorem delete {key : ObjectKey} (hkeyed : c.Keyed) (hc : c.Childless key) :
    c.Confined owner (· = key) (c.delete key) := by
  have heffect := delete_effect c key
  generalize c.delete key = after at heffect ⊢
  cases heffect with
  | missed => exact refl c owner _
  | doomed _ stored hstored =>
    have hkey : (Cluster.doomed (c.version + 1) stored).key = key := by
      rw [key_doomed, hkeyed key stored hstored]
    have howners : ∀ uid, owner ≠ some uid → c.Unlisted uid →
        (Cluster.doomed (c.version + 1) stored).isOwnedBy uid = false := by
      intro uid _ hc
      have hsame : (Cluster.doomed (c.version + 1) stored).metadata.ownerReferences =
          stored.metadata.ownerReferences := by
        rw [metadata_doomed]
      rw [Resource.isOwnedBy_congr hsame]
      exact hc key stored hstored
    simpa only [hkey] using put (Cluster.doomed (c.version + 1) stored) howners
  | removed =>
    exact ⟨fun other hother => hc.getElem?_remove hother, fun h => h.remove key,
      fun uid _ h => h.remove key⟩

end Confined

/-- A write of a status touches no other object. -/
theorem Effect.confined_of_replaceStatus {r : Resource} {stored : Option Resource}
    {after : Cluster} (hkeyed : c.Keyed) (owner : Option String)
    (h : c.Effect (.replaceStatus r) stored after) : c.Confined owner (· = r.key) after := by
  cases h with
  | reported _ stored hstored =>
    have hkey : (stamped (c.version + 1) (stored.withStatusOf r)).key = r.key := by
      rw [key_stamped, key_withStatusOf, hkeyed _ stored hstored]
    rw [← hkey]
    refine Confined.put _ fun uid _ hunlisted => ?_
    have howners : (stamped (c.version + 1) (stored.withStatusOf r)).metadata.ownerReferences =
        stored.metadata.ownerReferences := by
      rw [metadata_stamped, Resource.metadata_withStatusOf]
    rw [Resource.isOwnedBy_congr howners]
    exact hunlisted r.key stored hstored

/-- The object under a key owns nothing, and its uid is not that of an owner whose objects may
change. -/
structure Alone (c : Cluster) (owner : Option String) (key : ObjectKey) : Prop where
  childless : c.Childless key
  distinct : ∀ r uid, c.get? key = some r → r.metadata.uid = some uid → owner ≠ some uid

/-- An object stays alone as long as one with its uid is stored in its place. -/
theorem Alone.of_uid {owner : Option String} {keys : ObjectKey → Prop} {after : Cluster}
    {key : ObjectKey} (h : c.Alone owner key) (hconfined : c.Confined owner keys after)
    (huid : ∀ r, after.get? key = some r →
      ∃ s, c.get? key = some s ∧ s.metadata.uid = r.metadata.uid) : after.Alone owner key := by
  refine ⟨fun r uid hr hruid => ?_, fun r uid hr hruid => ?_⟩
  · obtain ⟨s, hs, hsame⟩ := huid r hr
    have hsuid := hsame.trans hruid
    exact hconfined.unlisted uid (h.distinct s uid hs hsuid) (h.childless s uid hs hsuid)
  · obtain ⟨s, hs, hsame⟩ := huid r hr
    exact h.distinct s uid hs (hsame.trans hruid)

theorem Alone.of_confined {owner : Option String} {keys : ObjectKey → Prop} {after : Cluster}
    {key : ObjectKey} (h : c.Alone owner key) (hconfined : c.Confined owner keys after)
    (hkey : ¬ keys key) : after.Alone owner key := by
  refine h.of_uid hconfined fun r hr => ⟨r, ?_, rfl⟩
  rw [← hconfined.frame key hkey, hr]

end Cluster

end CompositeApps
