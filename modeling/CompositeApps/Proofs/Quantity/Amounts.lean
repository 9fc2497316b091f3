import Mathlib.Data.List.Perm.Subperm
import Mathlib.Data.Option.Defs
import CompositeApps.Proofs.App.Labels
import CompositeApps.Quantity

/-!
When two lists of resources ask for the same: they have the same names, and the two amounts of a
name are the same. That is what is compared, where only one of the lists is walked through.
-/

namespace CompositeApps

/-- If no name of a map is missing in another one, the two have the same size just if no name of the
other is missing in the first. -/
theorem Dict.size_eq_iff {α β : Type} {a : Dict α} {b : Dict β}
    (h : ∀ name : String, a[name]?.isSome → b[name]?.isSome) :
    a.size = b.size ↔ ∀ name : String, b[name]?.isSome → a[name]?.isSome := by
  simp only [Std.ExtTreeMap.isSome_getElem?_iff_mem, ← Std.ExtTreeMap.mem_keys] at h ⊢
  rw [← Std.ExtTreeMap.length_keys, ← Std.ExtTreeMap.length_keys]
  have hsub : a.keys.Subperm b.keys := List.subperm_of_subset Std.ExtTreeMap.nodup_keys h
  constructor
  · intro hsize name hname
    exact (hsub.perm_of_length_le (Nat.le_of_eq hsize.symm)).mem_iff.2 hname
  · intro hback
    have hperm := (List.perm_ext_iff_of_nodup Std.ExtTreeMap.nodup_keys
      Std.ExtTreeMap.nodup_keys).2 fun name => ⟨h name, hback name⟩
    exact hperm.length_eq

namespace Quantity

theorem same_refl (text : String) : same text text = true := by
  unfold same
  cases nanoUnits? text <;> simp

def SameAmounts (a b : Dict String) : Prop :=
  ∀ name : String, Option.Rel (fun x y => same x y = true) a[name]? b[name]?

theorem SameAmounts.refl (a : Dict String) : SameAmounts a a := by
  intro name
  cases a[name]? with
  | none => exact .none
  | some x => exact .some (same_refl x)

/-- What is found on a walk through the first of two lists. -/
theorem sameList_iff_forall {a b : Option (Dict String)} :
    sameList a b = true ↔ (a.getD ∅).size = (b.getD ∅).size ∧
      ∀ (name x : String), (a.getD ∅)[name]? = some x →
        ∃ y, (b.getD ∅)[name]? = some y ∧ same x y = true := by
  rw [sameList, Bool.and_eq_true, decide_eq_true_iff, List.all_eq_true]
  refine and_congr_right fun _ => ?_
  constructor
  · intro h name x hx
    have hfound := h (name, x) (Std.ExtTreeMap.mem_toList_iff_getElem?_eq_some.2 hx)
    dsimp only at hfound
    split at hfound
    · rename_i y hy
      exact ⟨y, hy, hfound⟩
    · exact absurd hfound Bool.false_ne_true
  · intro h entry hentry
    obtain ⟨y, hy, hsame⟩ := h _ _ (Std.ExtTreeMap.mem_toList_iff_getElem?_eq_some.1 hentry)
    simp only [hy, hsame]

theorem sameList_iff {a b : Option (Dict String)} :
    sameList a b = true ↔ SameAmounts (a.getD ∅) (b.getD ∅) := by
  rw [sameList_iff_forall]
  generalize a.getD ∅ = a
  generalize b.getD ∅ = b
  constructor
  · rintro ⟨hsize, hfound⟩ name
    -- The walk is along the first list; what the second has besides would make it longer.
    have hback := (Dict.size_eq_iff fun name hname => by
      obtain ⟨x, hx⟩ := Option.isSome_iff_exists.1 hname
      obtain ⟨y, hy, -⟩ := hfound name x hx
      rw [hy, Option.isSome_some]).1 hsize name
    cases hx : a[name]? with
    | some x =>
      obtain ⟨y, hy, hsame⟩ := hfound name x hx
      rw [hy]
      exact .some hsame
    | none =>
      rw [hx, Option.isSome_none, Bool.false_eq_true, imp_false, Bool.not_eq_true,
        Option.isSome_eq_false_iff, Option.isNone_iff_eq_none] at hback
      rw [hback]
      exact .none
  · intro h
    have hnames : ∀ name : String, a[name]?.isSome = b[name]?.isSome := by
      intro name
      have hname := h name
      generalize a[name]? = x at hname
      generalize b[name]? = y at hname
      cases hname <;> rfl
    refine ⟨(Dict.size_eq_iff fun name hname => hnames name ▸ hname).2
      fun name hname => (hnames name).symm ▸ hname, fun name x hx => ?_⟩
    have hname := h name
    rw [hx] at hname
    generalize b[name]? = y at hname
    cases hname with
    | some hsame => exact ⟨_, rfl, hsame⟩

instance (a b : Dict String) : Decidable (SameAmounts a b) :=
  decidable_of_iff _ (sameList_iff (a := some a) (b := some b))

/-- What a text is compared by: its value if it is an amount, and else the text itself. -/
def comparand (text : String) : Int ⊕ String :=
  match nanoUnits? text with
  | some n => .inl n
  | none => .inr text

theorem same_iff_comparand_eq {a b : String} : same a b = true ↔ comparand a = comparand b := by
  -- an amount is no text that is none
  have hne : nanoUnits? a ≠ nanoUnits? b → a ≠ b := mt (congrArg nanoUnits?)
  unfold same comparand
  cases ha : nanoUnits? a with
  | some x =>
    cases hb : nanoUnits? b with
    | some y => simp
    | none =>
      rw [ha, hb] at hne
      simp [hne]
  | none =>
    cases hb : nanoUnits? b with
    | some y =>
      rw [ha, hb] at hne
      simp [hne]
    | none => simp

theorem same_equivalence : Equivalence fun a b : String => same a b = true where
  refl := same_refl
  symm h := same_iff_comparand_eq.2 (same_iff_comparand_eq.1 h).symm
  trans h h' := same_iff_comparand_eq.2
    ((same_iff_comparand_eq.1 h).trans (same_iff_comparand_eq.1 h'))

/-- Two lists are the same if under each name there stands the same to be compared. -/
theorem sameAmounts_iff_comparand_eq {a b : Dict String} :
    SameAmounts a b ↔ ∀ name : String, a[name]?.map comparand = b[name]?.map comparand := by
  refine forall_congr' fun name => ?_
  cases a[name]? <;> cases b[name]? <;> simp [same_iff_comparand_eq]

theorem sameList_equivalence :
    Equivalence fun a b : Option (Dict String) => sameList a b = true where
  refl a := sameList_iff.2 (SameAmounts.refl _)
  symm h := by
    rw [sameList_iff, sameAmounts_iff_comparand_eq] at h ⊢
    exact fun name => (h name).symm
  trans h h' := by
    rw [sameList_iff, sameAmounts_iff_comparand_eq] at h h' ⊢
    exact fun name => (h name).trans (h' name)

theorem sameAmounts_iff_names {a b : Dict String} :
    SameAmounts a b ↔ (∀ name : String, name ∈ a ↔ name ∈ b) ∧
      ∀ name x y : String, a[name]? = some x → b[name]? = some y → same x y = true := by
  simp only [Std.ExtTreeMap.mem_iff_isSome_getElem?]
  rw [SameAmounts, ← forall_and]
  refine forall_congr' fun name => ?_
  cases a[name]? <;> cases b[name]? <;> simp

/-- Texts compare as values of an equivalence relation, and so do lists of resources, of which a
missing one is an empty one: two lists are the same just if they have the same names and under each
name the same amount. -/
theorem comparison_equivalence :
    Equivalence (fun a b : String => same a b = true) ∧
    Equivalence (fun a b : Option (Dict String) => sameList a b = true) ∧
    (∀ a, sameList none a = sameList (some ∅) a ∧ sameList a none = sameList a (some ∅)) ∧
    ∀ a b : Option (Dict String), sameList a b = true ↔
      (∀ name : String, name ∈ a.getD ∅ ↔ name ∈ b.getD ∅) ∧
        ∀ name x y : String, (a.getD ∅)[name]? = some x → (b.getD ∅)[name]? = some y →
          same x y = true := by
  refine ⟨same_equivalence, sameList_equivalence, fun a => ⟨rfl, rfl⟩, fun a b => ?_⟩
  rw [sameList_iff, sameAmounts_iff_names]

end Quantity

end CompositeApps
