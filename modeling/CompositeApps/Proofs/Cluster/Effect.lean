import CompositeApps.Cluster.Faults
import CompositeApps.Proofs.Cluster.Cascade
import CompositeApps.Proofs.Success

/-!
What a call does to a cluster unless it is refused, case by case, and what follows from it: every
object stays stored under its own key, and the keys that a call touches are its own and those of
objects that go with their owner.
-/

namespace CompositeApps

namespace Child

@[simp]
theorem metadata_withMetadata (m : ObjectMeta) (c : Child) : (c.withMetadata m).metadata = m := by
  cases c <;> rfl

@[simp]
theorem kind_withMetadata (m : ObjectMeta) (c : Child) : (c.withMetadata m).kind = c.kind := by
  cases c <;> rfl

@[simp]
theorem isFinite_withMetadata (m : ObjectMeta) (c : Child) :
    (c.withMetadata m).isFinite = c.isFinite := by
  cases c <;> rfl

end Child

namespace Resource

@[simp]
theorem metadata_withMetadata (m : ObjectMeta) (r : Resource) :
    (r.withMetadata m).metadata = m := by
  cases r with
  | app a => rfl
  | child c => exact c.metadata_withMetadata m

@[simp]
theorem kind_withMetadata (m : ObjectMeta) (r : Resource) : (r.withMetadata m).kind = r.kind := by
  cases r with
  | app a => rfl
  | child c => exact congrArg Kind.child (c.kind_withMetadata m)

@[simp]
theorem metadata_mapMetadata (f : ObjectMeta → ObjectMeta) (r : Resource) :
    (r.mapMetadata f).metadata = f r.metadata :=
  r.metadata_withMetadata (f r.metadata)

@[simp]
theorem kind_mapMetadata (f : ObjectMeta → ObjectMeta) (r : Resource) :
    (r.mapMetadata f).kind = r.kind :=
  r.kind_withMetadata (f r.metadata)

@[simp]
theorem isFinite_withMetadata (m : ObjectMeta) (r : Resource) :
    (r.withMetadata m).isFinite = r.isFinite := by
  cases r with
  | app a => rfl
  | child c => exact c.isFinite_withMetadata m

@[simp]
theorem isFinite_mapMetadata (f : ObjectMeta → ObjectMeta) (r : Resource) :
    (r.mapMetadata f).isFinite = r.isFinite :=
  r.isFinite_withMetadata (f r.metadata)

@[simp]
theorem isFinite_withStatusOf (r source : Resource) :
    (r.withStatusOf source).isFinite = r.isFinite := by
  unfold withStatusOf
  split <;> rfl

@[simp]
theorem metadata_withStatusOf (r source : Resource) :
    (r.withStatusOf source).metadata = r.metadata := by
  unfold withStatusOf
  split <;> rfl

@[simp]
theorem kind_withStatusOf (r source : Resource) : (r.withStatusOf source).kind = r.kind := by
  unfold withStatusOf
  split <;> rfl

theorem withMetadata_withMetadata (m m' : ObjectMeta) (r : Resource) :
    (r.withMetadata m).withMetadata m' = r.withMetadata m' := by
  cases r with
  | app a => rfl
  | child c => cases c <;> rfl

/-- The status that an object has taken over from another one is what it takes over again. -/
theorem withStatusOf_withMetadata (m : ObjectMeta) (r source : Resource) :
    r.withStatusOf ((r.withStatusOf source).withMetadata m) = r.withStatusOf source := by
  rcases r with a | (d | s | v | h | rule) <;>
    rcases source with a' | (d' | s' | v' | h' | rule') <;> rfl

theorem readBack_of_isFinite {r : Resource} (h : r.isFinite = true) : r.readBack = .ok r := by
  rw [readBack, reread, if_pos h]
  rfl

theorem readBack_eq_ok {r s : Resource} :
    r.readBack = .ok s ↔ r = s ∧ r.isFinite = true := by
  rw [readBack, mapError_eq_ok, reread]
  split
  · rename_i h
    simp only [h, Except.ok.injEq, and_true]
  · rename_i h
    simp only [h, reduceCtorEq, and_false]

end Resource

namespace Reply

theorem ofStored_of_isFinite {r : Resource} (h : r.isFinite = true) :
    ofStored (some r) = .ok (some r) := by
  rw [ofStored, Resource.readBack_of_isFinite h]
  rfl

/-- What is read is what is stored, and all its numbers are finite. -/
theorem ofStored_eq_ok {stored reply : Option Resource} :
    ofStored stored = .ok reply ↔ stored = reply ∧ stored.all (·.isFinite) = true := by
  cases stored with
  | none =>
    rw [ofStored, Except.ok.injEq]
    exact (and_iff_left rfl).symm
  | some r =>
    rw [ofStored, map_eq_ok, Option.all_some]
    constructor
    · rintro ⟨s, hs, rfl⟩
      obtain ⟨rfl, hfinite⟩ := Resource.readBack_eq_ok.1 hs
      exact ⟨rfl, hfinite⟩
    · rintro ⟨rfl, hfinite⟩
      exact ⟨r, Resource.readBack_eq_ok.2 ⟨rfl, hfinite⟩, rfl⟩

theorem exists_ofStored_eq_malformed {r : Resource} (h : r.isFinite = false) :
    ∃ message, ofStored (some r) = .error (.malformed message) := by
  rw [ofStored, Resource.readBack, Resource.reread, h]
  exact ⟨_, rfl⟩

/-- Nothing but a number that is not finite keeps an object from being read. -/
theorem exists_malformed {r : Resource} {e : StoreError} (h : ofStored (some r) = .error e) :
    r.isFinite = false ∧ ∃ message, e = .malformed message := by
  cases hfinite : r.isFinite with
  | true => exact absurd ((ofStored_of_isFinite hfinite).symm.trans h) (by simp)
  | false =>
    obtain ⟨message, hmessage⟩ := exists_ofStored_eq_malformed hfinite
    exact ⟨rfl, message, Except.error.inj (h.symm.trans hmessage)⟩

end Reply

namespace Cluster

def newborn (version : Nat) (r : Resource) : Resource :=
  (stamped version r).mapMetadata fun m => { m with uid := some (uidText version) }

def doomed (version : Nat) (r : Resource) : Resource :=
  (stamped version r).mapMetadata fun m => { m with deletionTimestamp := some deletionTime }

@[simp]
theorem metadata_stamped (version : Nat) (r : Resource) :
    (stamped version r).metadata =
      { r.metadata with resourceVersion := some (versionText version) } := by
  simp [stamped]

@[simp]
theorem kind_stamped (version : Nat) (r : Resource) : (stamped version r).kind = r.kind := by
  simp [stamped]

@[simp]
theorem isFinite_stamped (version : Nat) (r : Resource) :
    (stamped version r).isFinite = r.isFinite := by
  simp [stamped]

@[simp]
theorem isFinite_newborn (version : Nat) (r : Resource) :
    (newborn version r).isFinite = r.isFinite := by
  simp [newborn]

@[simp]
theorem isFinite_doomed (version : Nat) (r : Resource) :
    (doomed version r).isFinite = r.isFinite := by
  simp [doomed]

@[simp]
theorem isFinite_replacement (stored incoming : Resource) (version : Nat) :
    (replacement stored incoming version).isFinite = incoming.isFinite := by
  simp [replacement]

@[simp]
theorem metadata_newborn (version : Nat) (r : Resource) :
    (newborn version r).metadata =
      { r.metadata with
        resourceVersion := some (versionText version)
        uid := some (uidText version) } := by
  simp [newborn]

@[simp]
theorem metadata_doomed (version : Nat) (r : Resource) :
    (doomed version r).metadata =
      { r.metadata with
        resourceVersion := some (versionText version)
        deletionTimestamp := some deletionTime } := by
  simp [doomed]

@[simp]
theorem metadata_replacement (stored incoming : Resource) (version : Nat) :
    (replacement stored incoming version).metadata =
      { incoming.metadata with
        uid := stored.metadata.uid
        creationTimestamp := stored.metadata.creationTimestamp
        deletionTimestamp := stored.metadata.deletionTimestamp
        resourceVersion := some (versionText version) } := by
  simp [replacement]

@[simp]
theorem key_stamped (version : Nat) (r : Resource) : (stamped version r).key = r.key := by
  simp [stamped, Resource.key, ObjectMeta.namespaceOrDefault, ObjectMeta.displayName]

@[simp]
theorem key_newborn (version : Nat) (r : Resource) : (newborn version r).key = r.key := by
  simp [newborn, Resource.key, ObjectMeta.namespaceOrDefault, ObjectMeta.displayName]

@[simp]
theorem key_doomed (version : Nat) (r : Resource) : (doomed version r).key = r.key := by
  simp [doomed, Resource.key, ObjectMeta.namespaceOrDefault, ObjectMeta.displayName]

@[simp]
theorem key_replacement (stored incoming : Resource) (version : Nat) :
    (replacement stored incoming version).key = incoming.key := by
  simp [replacement, Resource.key, ObjectMeta.namespaceOrDefault, ObjectMeta.displayName]

@[simp]
theorem key_withStatusOf (r source : Resource) : (r.withStatusOf source).key = r.key := by
  simp [Resource.key]

theorem doomed_doomed (version version' : Nat) (r : Resource) :
    doomed version (doomed version' r) = doomed version r := by
  unfold doomed stamped
  simp only [Resource.mapMetadata, Resource.metadata_withMetadata,
    Resource.withMetadata_withMetadata]

/-- To replace an object by the same one again makes no difference but for the version. -/
theorem replacement_replacement (version version' : Nat) (stored r : Resource) :
    replacement (replacement stored r version') r version = replacement stored r version := by
  unfold replacement
  simp only [Resource.mapMetadata, Resource.metadata_withMetadata,
    Resource.withStatusOf_withMetadata]

theorem get?_put (c : Cluster) (r : Resource) (key : ObjectKey) :
    (c.put r).get? key = if r.key = key then some r else c.get? key :=
  Objects.getElem?_insert c.objects r.key key r

theorem get?_put_self (c : Cluster) (r : Resource) : (c.put r).get? r.key = some r := by
  rw [get?_put, if_pos rfl]

theorem get?_put_of_ne {c : Cluster} {r : Resource} {key : ObjectKey} (h : key ≠ r.key) :
    (c.put r).get? key = c.get? key := by
  rw [get?_put, if_neg (Ne.symm h)]

theorem eq_or_get?_of_put {c : Cluster} {r stored : Resource} {key : ObjectKey}
    (h : (c.put r).get? key = some stored) : stored = r ∨ c.get? key = some stored := by
  rw [get?_put] at h
  split at h
  · exact Or.inl (Option.some.inj h).symm
  · exact Or.inr h

/-- What a call does unless it is refused: the object that it finds or stores, and the cluster after
it. -/
inductive Effect (c : Cluster) : Call → Option Resource → Cluster → Prop where
  | found (key : ObjectKey) : Effect c (.get key) (c.get? key) c
  | created (r : Resource) (hfree : c.get? r.key = none) :
      Effect c (.create r) (some (newborn (c.version + 1) r)) (c.put (newborn (c.version + 1) r))
  | replaced (r stored : Resource) (hstored : c.get? r.key = some stored)
      (hversion : stored.metadata.checkVersion r.metadata = .ok ())
      (hheld : (replacement stored r (c.version + 1)).metadata.isReleased = false) :
      Effect c (.replace r) (some (replacement stored r (c.version + 1)))
        (c.put (replacement stored r (c.version + 1)))
  | released (r stored : Resource) (hstored : c.get? r.key = some stored)
      (hversion : stored.metadata.checkVersion r.metadata = .ok ())
      (hreleased : (replacement stored r (c.version + 1)).metadata.isReleased = true) :
      Effect c (.replace r) (some (replacement stored r (c.version + 1)))
        { c.put (replacement stored r (c.version + 1)) with
          objects := (c.put (replacement stored r (c.version + 1))).objects.remove r.key }
  | reported (r stored : Resource) (hstored : c.get? r.key = some stored)
      (hversion : stored.metadata.checkVersion r.metadata = .ok ()) :
      Effect c (.replaceStatus r) (some (stamped (c.version + 1) (stored.withStatusOf r)))
        (c.put (stamped (c.version + 1) (stored.withStatusOf r)))
  | missed (key : ObjectKey) (hfree : c.get? key = none) : Effect c (.delete key) none c
  | doomed (key : ObjectKey) (stored : Resource) (hstored : c.get? key = some stored)
      (hheld : stored.metadata.finalizerList.isEmpty = false) :
      Effect c (.delete key) none (c.put (doomed (c.version + 1) stored))
  | removed (key : ObjectKey) (stored : Resource) (hstored : c.get? key = some stored)
      (hfree : stored.metadata.finalizerList.isEmpty = true) :
      Effect c (.delete key) none { c with objects := c.objects.remove key }

theorem Effect.of_get {c after : Cluster} {key : ObjectKey} {found : Option Resource}
    (h : c.Effect (.get key) found after) : found = c.get? key ∧ after = c := by
  cases h with
  | found => exact ⟨rfl, rfl⟩

theorem delete_effect (c : Cluster) (key : ObjectKey) :
    c.Effect (.delete key) none (c.delete key) := by
  unfold delete
  split
  · rename_i hfree
    exact Effect.missed key hfree
  · rename_i stored hstored
    split
    · rename_i hfree
      exact Effect.removed key stored hstored hfree
    · rename_i hheld
      exact Effect.doomed key stored hstored (by simpa using hheld)

section Perform

variable {c after : Cluster} {call : Call} {stored reply : Option Resource}

/-- A call that is not refused is answered with what is read of the object that it finds or stores.
The cluster is the one after the call also if that cannot be read. -/
theorem Effect.perform_eq (h : c.Effect call stored after) :
    c.perform call = (.ofStored stored, after) := by
  cases h with
  | found key => rfl
  | created r hfree =>
    have hmem : r.key ∉ c.objects := by
      rw [Std.ExtTreeMap.mem_iff_isSome_getElem?, show c.objects[r.key]? = none from hfree]
      simp
    simp only [perform, create, if_neg hmem]
    rfl
  | replaced r stored hstored hversion hheld =>
    have hlookup : c.objects[r.key]? = some stored := hstored
    simp only [perform, replace, hlookup, hversion, hheld]
    rfl
  | released r stored hstored hversion hreleased =>
    have hlookup : c.objects[r.key]? = some stored := hstored
    simp only [perform, replace, hlookup, hversion, hreleased]
    rfl
  | reported r stored hstored hversion =>
    have hlookup : c.objects[r.key]? = some stored := hstored
    simp only [perform, replaceStatus, hlookup, hversion]
    rfl
  | missed key hfree =>
    have hlookup : c.objects[key]? = none := hfree
    simp only [perform, delete, hlookup]
    rfl
  | doomed key stored hstored hheld =>
    have hlookup : c.objects[key]? = some stored := hstored
    simp only [perform, delete, hlookup, hheld]
    rfl
  | removed key stored hstored hfree =>
    have hlookup : c.objects[key]? = some stored := hstored
    simp only [perform, delete, hlookup, hfree]
    rfl

theorem Effect.perform_of_isFinite (h : c.Effect call stored after)
    (hfinite : stored.all (·.isFinite) = true) : c.perform call = (.ok stored, after) := by
  rw [h.perform_eq, Reply.ofStored_eq_ok.2 ⟨rfl, hfinite⟩]

/-- Every call does one of the things above, or it is refused and does nothing. -/
theorem effect_or_refused (c : Cluster) (call : Call) :
    (∃ stored after, c.Effect call stored after) ∨ ∃ e, c.perform call = (.error e, c) := by
  cases call with
  | get key => exact Or.inl ⟨_, _, .found key⟩
  | delete key => exact Or.inl ⟨_, _, delete_effect c key⟩
  | create r =>
    by_cases hmem : r.key ∈ c.objects
    · refine Or.inr ⟨.api 409 (r.kind.name ++ " " ++ r.key.name ++ " already exists"), ?_⟩
      simp only [perform, create, if_pos hmem]
      rfl
    · exact Or.inl ⟨_, _, .created r (Std.ExtTreeMap.getElem?_eq_none hmem)⟩
  | replace r =>
    cases hlookup : c.objects[r.key]? with
    | none =>
      refine Or.inr ⟨.notFound, ?_⟩
      simp only [perform, replace, hlookup]
      rfl
    | some stored =>
      cases hversion : stored.metadata.checkVersion r.metadata with
      | error e =>
        refine Or.inr ⟨e, ?_⟩
        simp only [perform, replace, hlookup, hversion]
        rfl
      | ok =>
        cases hreleased : (replacement stored r (c.version + 1)).metadata.isReleased with
        | true => exact Or.inl ⟨_, _, .released r stored hlookup hversion hreleased⟩
        | false => exact Or.inl ⟨_, _, .replaced r stored hlookup hversion hreleased⟩
  | replaceStatus r =>
    cases hlookup : c.objects[r.key]? with
    | none =>
      refine Or.inr ⟨.notFound, ?_⟩
      simp only [perform, replaceStatus, hlookup]
      rfl
    | some stored =>
      cases hversion : stored.metadata.checkVersion r.metadata with
      | error e =>
        refine Or.inr ⟨e, ?_⟩
        simp only [perform, replaceStatus, hlookup, hversion]
        rfl
      | ok => exact Or.inl ⟨_, _, .reported r stored hlookup hversion⟩

/-- Whatever the answer, a call does one of the things above or nothing. -/
theorem effect_or_eq {answer : Reply} (h : c.perform call = (answer, after)) :
    (∃ stored, c.Effect call stored after) ∨ after = c := by
  rcases c.effect_or_refused call with ⟨stored, later, heffect⟩ | ⟨e, he⟩
  · obtain ⟨-, rfl⟩ := Prod.mk.inj (heffect.perform_eq.symm.trans h)
    exact Or.inl ⟨stored, heffect⟩
  · exact Or.inr (Prod.mk.inj (he.symm.trans h)).2.symm

end Perform

/-- What holds of all that is stored can be looked up entry by entry. -/
theorem forall_get?_iff {c : Cluster} {p : ObjectKey → Resource → Prop} :
    (∀ key r, c.get? key = some r → p key r) ↔ ∀ entry ∈ c.objects.toList, p entry.1 entry.2 := by
  constructor
  · intro h entry hentry
    exact h _ _ (Std.ExtTreeMap.mem_toList_iff_getElem?_eq_some.1 hentry)
  · intro h key r hr
    exact h (key, r) (Std.ExtTreeMap.mem_toList_iff_getElem?_eq_some.2 hr)

def Keyed (c : Cluster) : Prop :=
  ∀ key r, c.get? key = some r → r.key = key

instance (c : Cluster) : Decidable c.Keyed :=
  decidable_of_iff' _ forall_get?_iff

theorem get?_empty (key : ObjectKey) : get? {} key = none :=
  Std.ExtTreeMap.getElem?_empty

theorem Keyed.empty : Keyed {} := by
  intro key r hr
  rw [get?_empty] at hr
  exact absurd hr (by simp)

theorem Keyed.put {c : Cluster} (h : c.Keyed) (r : Resource) : (c.put r).Keyed := by
  intro key s hs
  rw [get?_put] at hs
  split at hs
  · rename_i hkey
    rw [← Option.some.inj hs, hkey]
  · exact h key s hs

theorem Keyed.remove {c : Cluster} (h : c.Keyed) (key : ObjectKey) :
    Keyed { c with objects := c.objects.remove key } :=
  fun other r hr => h other r (Objects.getElem?_of_remove hr)

/-- All numbers that are stored are finite. -/
def Finite (c : Cluster) : Prop :=
  ∀ key r, c.get? key = some r → r.isFinite = true

namespace Finite

theorem empty : Finite {} := by
  intro key r hr
  rw [get?_empty] at hr
  exact absurd hr (by simp)

theorem put {c : Cluster} (h : c.Finite) {r : Resource} (hr : r.isFinite = true) :
    (c.put r).Finite := by
  intro key s hs
  rcases eq_or_get?_of_put hs with rfl | hs
  · exact hr
  · exact h key s hs

theorem remove {c : Cluster} (h : c.Finite) (key : ObjectKey) :
    Finite { c with objects := c.objects.remove key } :=
  fun other r hr => h other r (Objects.getElem?_of_remove hr)

theorem all_get? {c : Cluster} (h : c.Finite) (key : ObjectKey) :
    (c.get? key).all (·.isFinite) = true :=
  (Option.all_eq_true _ _).2 fun r hr => h key r hr

end Finite

theorem Effect.keyed {c after : Cluster} {call : Call} {reply : Option Resource}
    (h : c.Effect call reply after) (hkeyed : c.Keyed) : after.Keyed := by
  cases h with
  | found | missed => exact hkeyed
  | created | replaced | reported | doomed => exact hkeyed.put _
  | released r => exact (hkeyed.put _).remove r.key
  | removed key => exact hkeyed.remove key

end Cluster

end CompositeApps
