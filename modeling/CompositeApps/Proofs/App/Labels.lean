import CompositeApps.App.Basic

/-!
Labels that select: a selector picks whatever carries all of its labels. The labels that an app puts
on its objects carry its selectors, whatever labels the app has itself.
-/

namespace CompositeApps

def Dict.Within {α : Type} (part whole : Dict α) : Prop :=
  ∀ (key : String) (value : α), part[key]? = some value → whole[key]? = some value

namespace Dict

variable {α : Type}

theorem getElem?_insert (d : Dict α) (key other : String) (value : α) :
    (d.insert key value)[other]? = if key = other then some value else d[other]? := by
  rw [Std.ExtTreeMap.getElem?_insert]
  simp only [Std.LawfulEqCmp.compare_eq_iff_eq]

theorem getElem?_empty (key : String) : (∅ : Dict α)[key]? = none :=
  Std.ExtTreeMap.getElem?_empty

namespace Within

variable {part whole : Dict α}

theorem refl (d : Dict α) : d.Within d :=
  fun _ _ h => h

theorem iff_toList :
    part.Within whole ↔ ∀ entry ∈ part.toList, whole[entry.1]? = some entry.2 := by
  constructor
  · intro h entry hentry
    exact h _ _ (Std.ExtTreeMap.mem_toList_iff_getElem?_eq_some.1 hentry)
  · intro h key value hvalue
    exact h (key, value) (Std.ExtTreeMap.mem_toList_iff_getElem?_eq_some.2 hvalue)

instance [DecidableEq α] : Decidable (part.Within whole) :=
  decidable_of_iff' _ iff_toList

/-- A map with one entry more. -/
theorem insert_iff {key : String} {value : α} (hfresh : part[key]? = none) :
    Within (part.insert key value) whole ↔ whole[key]? = some value ∧ part.Within whole := by
  constructor
  · intro h
    refine ⟨h key value (by rw [getElem?_insert, if_pos rfl]), fun other old hold => ?_⟩
    refine h other old ?_
    rw [getElem?_insert, if_neg, hold]
    rintro rfl
    exact absurd (hfresh.symm.trans hold) (by simp)
  · intro h other old hold
    rw [getElem?_insert] at hold
    split at hold
    · rename_i hsame
      obtain rfl := Option.some.inj hold
      rw [← hsame, h.1]
    · exact h.2 other old hold

theorem empty (whole : Dict α) : Within ∅ whole := by
  intro key value hvalue
  rw [getElem?_empty] at hvalue
  exact absurd hvalue (by simp)

theorem single_iff {key : String} {value : α} :
    Within ((∅ : Dict α).insert key value) whole ↔ whole[key]? = some value := by
  rw [insert_iff (getElem?_empty key)]
  exact and_iff_left (empty whole)

end Within

end Dict

namespace Labels

theorem getElem?_merge (first second : Labels) (key : String) :
    (merge first second)[key]? = second[key]?.or first[key]? := by
  have hmerge : merge first second = first.insertMany second.toList := by
    rw [merge, Std.ExtTreeMap.foldl_eq_foldl_toList, Std.ExtTreeMap.insertMany_list_eq_foldl]
  rw [hmerge]
  cases hsecond : second[key]? with
  | some value =>
    exact Std.ExtTreeMap.getElem?_insertMany_list_of_mem Std.ReflCmp.compare_self
      Std.ExtTreeMap.distinct_keys_toList
      (Std.ExtTreeMap.mem_toList_iff_getElem?_eq_some.2 hsecond)
  | none =>
    rw [Option.none_or]
    refine Std.ExtTreeMap.getElem?_insertMany_list_of_contains_eq_false ?_
    rw [Std.ExtTreeMap.map_fst_toList_eq_keys, ← Bool.not_eq_true, List.contains_iff_mem,
      Std.ExtTreeMap.mem_keys, ← Std.ExtTreeMap.isSome_getElem?_iff_mem, hsecond]
    exact Bool.false_ne_true

theorem within_merge_right (first second : Labels) : second.Within (merge first second) := by
  intro key value hvalue
  rw [getElem?_merge, hvalue, Option.some_or]

/-- Labels that say nothing else about the names in a selector than the selector does. -/
def Respects (labels selector : Labels) : Prop :=
  ∀ (key : String) (value : String), selector[key]? = some value →
    ∀ other, labels[key]? = some other → other = value

theorem respects_iff_toList {labels selector : Labels} :
    labels.Respects selector ↔
      ∀ entry ∈ selector.toList, ∀ other ∈ labels[entry.1]?, other = entry.2 := by
  constructor
  · intro h entry hentry
    exact h _ _ (Std.ExtTreeMap.mem_toList_iff_getElem?_eq_some.1 hentry)
  · intro h key value hvalue
    exact h (key, value) (Std.ExtTreeMap.mem_toList_iff_getElem?_eq_some.2 hvalue)

instance (labels selector : Labels) : Decidable (labels.Respects selector) :=
  decidable_of_iff' _ respects_iff_toList

/-- A selector that is met stays so under other labels laid over these if they respect it. -/
theorem within_merge_iff {selector first second : Labels} (hfirst : selector.Within first) :
    selector.Within (merge first second) ↔ second.Respects selector := by
  constructor
  · intro h key value hvalue other hother
    have hmerged := h key value hvalue
    rw [getElem?_merge, hother, Option.some_or] at hmerged
    exact Option.some.inj hmerged
  · intro h key value hvalue
    rw [getElem?_merge]
    cases hother : second[key]? with
    | none => rw [Option.none_or, hfirst key value hvalue]
    | some other => rw [Option.some_or, h key value hvalue other hother]

end Labels

namespace CompositeApp

variable (app : CompositeApp) (e : VersionEntry)

theorem versionLabel_ne_appLabel : versionLabel ≠ appLabel := by
  decide

theorem selector_within_iff {labels : Labels} :
    app.selector.Within labels ↔ labels[appLabel]? = some app.name :=
  Dict.Within.single_iff

theorem versionSelector_within_iff {labels : Labels} :
    (app.versionSelector e).Within labels ↔
      labels[versionLabel]? = some e.version ∧ labels[appLabel]? = some app.name := by
  have hfresh : app.selector[versionLabel]? = none := by
    rw [selector, Dict.getElem?_insert, if_neg versionLabel_ne_appLabel.symm, Dict.getElem?_empty]
  rw [versionSelector, Dict.Within.insert_iff hfresh, selector_within_iff]

theorem versionSelector_within_versionLabels :
    (app.versionSelector e).Within (app.versionLabels e) :=
  Labels.within_merge_right _ _

theorem selector_within_versionLabels : app.selector.Within (app.versionLabels e) :=
  (app.selector_within_iff).2
    ((app.versionSelector_within_iff e).1 (app.versionSelector_within_versionLabels e)).2

end CompositeApp

end CompositeApps
