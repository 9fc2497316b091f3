import CompositeApps.Proofs.Cluster.Effect

/-!
The versions of stored objects. Every write takes a version that was never given out before. A copy
that was read at some time is therefore the stored object itself at any later time at which it is
stored under the same version.
-/

namespace CompositeApps

def Call.guarded? : Call → Option Resource
  | .replace r | .replaceStatus r => some r
  | .get _ | .create _ | .delete _ => none

/-- A write that is based on a version goes ahead only if that is the stored one. -/
theorem ObjectMeta.resourceVersion_of_checkVersion {stored incoming : ObjectMeta} {version : String}
    (hbased : incoming.resourceVersion = some version)
    (hcheck : stored.checkVersion incoming = .ok ()) : stored.resourceVersion = some version := by
  unfold checkVersion at hcheck
  rw [hbased] at hcheck
  dsimp only at hcheck
  split at hcheck
  · assumption
  · exact absurd hcheck (by simp)

namespace Cluster

theorem Effect.exists_checked {c after : Cluster} {call : Call} {reply : Option Resource}
    {r : Resource} (h : c.Effect call reply after) (hguarded : call.guarded? = some r) :
    ∃ stored, c.get? r.key = some stored ∧ stored.metadata.checkVersion r.metadata = .ok () := by
  cases h with
  | replaced _ stored hstored hversion | released _ stored hstored hversion
  | reported _ stored hstored hversion =>
    obtain rfl := Option.some.inj hguarded
    exact ⟨stored, hstored, hversion⟩
  | found | created | missed | doomed | removed => exact absurd hguarded (by simp [Call.guarded?])

theorem versionText_injective {m n : Nat} (h : versionText m = versionText n) : m = n := by
  have hdigits : Nat.toDigits 10 m = Nat.toDigits 10 n := String.ofList_injective h
  rw [← Nat.ofDigitChars_ten_toDigits (n := m), hdigits, Nat.ofDigitChars_ten_toDigits]

/-- A write of anybody: a call that is not refused, or an object stored whatever is there. -/
inductive Write (c : Cluster) : Cluster → Prop where
  | called {call : Call} {stored : Option Resource} {after : Cluster}
      (h : c.Effect call stored after) : Write c after
  | seeded (r : Resource) : Write c (c.seed r).2

inductive Reachable : Cluster → Prop where
  | empty : Reachable {}
  | write {c after : Cluster} (hc : Reachable c) (h : c.Write after) : Reachable after

structure Versioned (c : Cluster) : Prop where
  keyed : c.Keyed
  given : ∀ key r, c.get? key = some r →
    ∃ n, n ≤ c.version ∧ r.metadata.resourceVersion = some (versionText n)

structure Later (c later : Cluster) : Prop where
  version_le : c.version ≤ later.version
  fresh : ∀ key r, later.get? key = some r → c.get? key = some r ∨
    ∃ n, c.version < n ∧ n ≤ later.version ∧
      r.metadata.resourceVersion = some (versionText n)

variable {c mid after : Cluster} {key : ObjectKey}

namespace Later

theorem refl (c : Cluster) : c.Later c :=
  ⟨Nat.le_refl _, fun _ _ h => Or.inl h⟩

theorem trans (h : c.Later mid) (h' : mid.Later after) : c.Later after where
  version_le := Nat.le_trans h.version_le h'.version_le
  fresh key r hr := by
    have hle := h.version_le
    have hle' := h'.version_le
    rcases h'.fresh key r hr with hmid | ⟨n, hn, hn', hversion⟩
    · rcases h.fresh key r hmid with hc | ⟨n, hn, hn', hversion⟩
      · exact Or.inl hc
      · exact Or.inr ⟨n, hn, by omega, hversion⟩
    · exact Or.inr ⟨n, by omega, hn', hversion⟩

theorem put {r : Resource}
    (hr : r.metadata.resourceVersion = some (versionText (c.version + 1))) : c.Later (c.put r) where
  version_le := Nat.le_succ _
  fresh key s hs := by
    rcases eq_or_get?_of_put hs with rfl | hs
    · exact Or.inr ⟨c.version + 1, Nat.lt_succ_self _, Nat.le_refl _, hr⟩
    · exact Or.inl hs

theorem remove (c : Cluster) (key : ObjectKey) :
    c.Later { c with objects := c.objects.remove key } where
  version_le := Nat.le_refl _
  fresh _ _ hr := Or.inl (Objects.getElem?_of_remove hr)

/-- A version that is still given later was given before. -/
theorem versioned (h : c.Later after) (hc : c.Versioned) (hkeyed : after.Keyed) :
    after.Versioned where
  keyed := hkeyed
  given key r hr := by
    rcases h.fresh key r hr with hbefore | ⟨n, -, hn, hversion⟩
    · obtain ⟨n, hn, hversion⟩ := hc.given key r hbefore
      exact ⟨n, Nat.le_trans hn h.version_le, hversion⟩
    · exact ⟨n, hn, hversion⟩

end Later

theorem Effect.later {call : Call} {reply : Option Resource} (h : c.Effect call reply after) :
    c.Later after := by
  cases h with
  | found | missed => exact .refl c
  | created r => exact .put (by rw [metadata_newborn])
  | replaced r stored => exact .put (by rw [metadata_replacement])
  | released r stored =>
    exact Later.trans (.put (by rw [metadata_replacement])) (.remove _ r.key)
  | reported r stored => exact .put (by rw [metadata_stamped])
  | doomed key stored => exact .put (by rw [metadata_doomed])
  | removed key => exact .remove c key

theorem Write.later (h : c.Write after) : c.Later after := by
  cases h with
  | called h => exact h.later
  | seeded r => exact .put (by simp)

theorem Write.keyed (h : c.Write after) (hc : c.Keyed) : after.Keyed := by
  cases h with
  | called h => exact h.keyed hc
  | seeded r => exact hc.put _

theorem Write.versioned (h : c.Write after) (hc : c.Versioned) : after.Versioned :=
  h.later.versioned hc (h.keyed hc.keyed)

theorem Reachable.versioned (h : c.Reachable) : c.Versioned := by
  induction h with
  | empty =>
    refine ⟨Keyed.empty, fun key r hr => ?_⟩
    rw [get?_empty] at hr
    exact absurd hr (by simp)
  | write _ hwrite ih => exact hwrite.versioned ih

/-- The version that is given out next is not in use. -/
theorem Versioned.ne_next {r : Resource} (h : c.Versioned) (hr : c.get? key = some r) :
    r.metadata.resourceVersion ≠ some (versionText (c.version + 1)) := by
  obtain ⟨n, hn, hversion⟩ := h.given key r hr
  intro hnext
  have hsame := versionText_injective (Option.some.inj (hversion.symm.trans hnext))
  omega

structure Numbered (c : Cluster) : Prop extends Versioned c where
  apart : ∀ key other r s, c.get? key = some r → c.get? other = some s →
    r.metadata.resourceVersion = s.metadata.resourceVersion → key = other

namespace Numbered

theorem empty : Numbered {} where
  toVersioned := Reachable.empty.versioned
  apart key _ r _ hr := by
    rw [get?_empty] at hr
    exact absurd hr (by simp)

/-- Storing an object under the next version keeps the versions apart. -/
theorem put (h : c.Numbered) {r : Resource}
    (hr : r.metadata.resourceVersion = some (versionText (c.version + 1))) :
    (c.put r).Numbered where
  toVersioned := (Later.put hr).versioned h.toVersioned (h.keyed.put r)
  apart one other s t hs ht hsame := by
    rw [get?_put] at hs ht
    split at hs <;> split at ht
    · rename_i hone hother
      exact hone.symm.trans hother
    · obtain rfl := Option.some.inj hs
      exact absurd (hsame.symm.trans hr) (h.ne_next ht)
    · obtain rfl := Option.some.inj ht
      exact absurd (hsame.trans hr) (h.ne_next hs)
    · exact h.apart one other s t hs ht hsame

theorem remove (h : c.Numbered) (key : ObjectKey) :
    Numbered { c with objects := c.objects.remove key } where
  toVersioned := (Later.remove c key).versioned h.toVersioned (h.keyed.remove key)
  apart one other r s hr hs := h.apart one other r s (Objects.getElem?_of_remove hr)
    (Objects.getElem?_of_remove hs)

end Numbered

theorem Effect.numbered {call : Call} {reply : Option Resource} (h : c.Effect call reply after)
    (hc : c.Numbered) : after.Numbered := by
  cases h with
  | found | missed => exact hc
  | created r => exact hc.put (by rw [metadata_newborn])
  | replaced r stored => exact hc.put (by rw [metadata_replacement])
  | released r stored => exact (hc.put (by rw [metadata_replacement])).remove r.key
  | reported r stored => exact hc.put (by rw [metadata_stamped])
  | doomed key stored => exact hc.put (by rw [metadata_doomed])
  | removed key => exact hc.remove key

theorem Write.numbered (h : c.Write after) (hc : c.Numbered) : after.Numbered := by
  cases h with
  | called h => exact h.numbered hc
  | seeded r => exact hc.put (by simp)

theorem Reachable.numbered (h : c.Reachable) : c.Numbered := by
  induction h with
  | empty => exact .empty
  | write _ hwrite ih => exact hwrite.numbered ih

/-- A copy of an object that is the stored object as long as that carries its version. -/
def Recalls (c : Cluster) (copy : Resource) : Prop :=
  ∃ n, n ≤ c.version ∧ copy.metadata.resourceVersion = some (versionText n) ∧
    ∀ r, c.get? copy.key = some r →
      r.metadata.resourceVersion = copy.metadata.resourceVersion → r = copy

theorem Versioned.recalls {r : Resource} (h : c.Versioned) (hr : c.get? key = some r) :
    c.Recalls r := by
  obtain ⟨n, hn, hversion⟩ := h.given key r hr
  refine ⟨n, hn, hversion, fun s hs _ => ?_⟩
  rw [h.keyed key r hr] at hs
  exact Option.some.inj (hs.symm.trans hr)

/-- What was read once can be relied on at any later time. -/
theorem Recalls.later {copy : Resource} (h : c.Recalls copy) (hlater : c.Later after) :
    after.Recalls copy := by
  obtain ⟨n, hn, hversion, hsame⟩ := h
  refine ⟨n, Nat.le_trans hn hlater.version_le, hversion, fun r hr hrversion => ?_⟩
  rcases hlater.fresh copy.key r hr with hbefore | ⟨m, hm, -, hmversion⟩
  · exact hsame r hbefore hrversion
  · have htext : some (versionText m) = some (versionText n) := by
      rw [← hmversion, hrversion, hversion]
    have hmn : m = n := versionText_injective (Option.some.inj htext)
    omega

/-- What a replace answers can be relied on like anything that was read. -/
theorem Effect.recalls_replaced {r next : Resource}
    (h : c.Effect (.replace r) (some next) after) : after.Recalls next := by
  have hversion : ∀ stored, (replacement stored r (c.version + 1)).metadata.resourceVersion =
      some (versionText (c.version + 1)) := by
    intro stored
    rw [metadata_replacement]
  cases h with
  | replaced _ stored =>
    refine ⟨c.version + 1, Nat.le_refl _, hversion stored, fun s hs _ => ?_⟩
    rw [get?_put_self] at hs
    exact (Option.some.inj hs).symm
  | released _ stored =>
    refine ⟨c.version + 1, Nat.le_refl _, hversion stored, fun s hs _ => ?_⟩
    rw [key_replacement, get?, Objects.getElem?_remove_self] at hs
    exact absurd hs (by simp)

/-- A write that is based on a copy goes ahead only if the copy is the stored object. -/
theorem Recalls.eq_of_checkVersion {copy stored : Resource} {incoming : ObjectMeta}
    (h : c.Recalls copy) (hstored : c.get? copy.key = some stored)
    (hbased : incoming.resourceVersion = copy.metadata.resourceVersion)
    (hcheck : stored.metadata.checkVersion incoming = .ok ()) : stored = copy := by
  obtain ⟨n, -, hversion, hsame⟩ := h
  refine hsame stored hstored ?_
  rw [hversion]
  exact ObjectMeta.resourceVersion_of_checkVersion (hbased.trans hversion) hcheck

end Cluster

end CompositeApps
