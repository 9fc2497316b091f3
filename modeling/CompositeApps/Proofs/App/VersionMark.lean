import Mathlib.Data.List.Infix
import Mathlib.Data.List.Perm.Subperm
import CompositeApps.Proofs.App.Validation

/-!
What is cut out of an image. Builds put a mark with the version behind the name of a repository, and
the image that runs is the one without it. Cut out is every occurrence of the mark that is met on a
walk from left to right, also one that stands within a longer name, and also where nothing is left.
-/

namespace CompositeApps

namespace Image

/-- What is left of a text if some occurrences of a mark are taken out that do not overlap. The
rests of the text behind these occurrences are listed. -/
inductive Removal (mark : List Char) : List Char → List (List Char) → List Char → Prop where
  | nil : Removal mark [] [] []
  | keep {text left : List Char} {rests : List (List Char)} (c : Char)
      (h : Removal mark text rests left) : Removal mark (c :: text) rests (c :: left)
  | takeOut {text left : List Char} {rests : List (List Char)}
      (h : Removal mark text rests left) : Removal mark (mark ++ text) (text :: rests) left

namespace Removal

variable {mark text left : List Char} {rests : List (List Char)}

theorem length_eq (h : Removal mark text rests left) :
    text.length = left.length + rests.length * mark.length := by
  induction h with
  | nil => simp
  | keep c _ ih =>
    simp only [List.length_cons, ih]
    omega
  | takeOut _ ih =>
    simp only [List.length_append, List.length_cons, ih, Nat.succ_mul]
    omega

/-- Only occurrences of the mark are taken out. -/
theorem occurs (h : Removal mark text rests left) {rest : List Char} (hrest : rest ∈ rests) :
    mark ++ rest <:+ text := by
  induction h with
  | nil => exact absurd hrest List.not_mem_nil
  | keep c _ ih => exact (ih hrest).trans (List.suffix_cons c _)
  | @takeOut text _ _ _ ih =>
    rcases List.mem_cons.1 hrest with rfl | hrest
    · exact List.suffix_rfl
    · exact (ih hrest).trans (List.suffix_append mark text)

theorem nodup (hmark : mark ≠ []) (h : Removal mark text rests left) : rests.Nodup := by
  induction h with
  | nil => exact List.nodup_nil
  | keep _ _ ih => exact ih
  | @takeOut text _ _ hrests ih =>
    refine List.nodup_cons.2 ⟨fun hagain => ?_, ih⟩
    have hlength := (hrests.occurs hagain).length_le
    have hpos := List.length_pos_of_ne_nil hmark
    rw [List.length_append] at hlength
    omega

theorem eq_of_nil (h : Removal mark text [] left) : left = text := by
  generalize hnone : ([] : List (List Char)) = rests at h
  induction h with
  | nil => rfl
  | keep c _ ih => rw [ih hnone]
  | takeOut => exact absurd hnone (by simp)

/-- A text of which nothing is left but certain characters consists of these and of the mark. -/
theorem exists_pieces {p : Char → Bool} (h : Removal mark text rests left)
    (hleft : left.all p = true) :
    ∃ first pieces, text = mark.intercalate (first :: pieces) ∧
      ∀ piece ∈ first :: pieces, piece.all p = true := by
  induction h with
  | nil => exact ⟨[], [], List.intercalate_singleton.symm, by simp⟩
  | keep c _ ih =>
    rw [List.all_cons, Bool.and_eq_true] at hleft
    obtain ⟨first, pieces, rfl, hpieces⟩ := ih hleft.2
    rw [List.forall_mem_cons] at hpieces
    refine ⟨c :: first, pieces, ?_, List.forall_mem_cons.2 ⟨?_, hpieces.2⟩⟩
    · cases pieces <;> simp [List.intercalate_cons_cons, List.intercalate_singleton]
    · rw [List.all_cons, hleft.1, hpieces.1, Bool.and_true]
  | takeOut _ ih =>
    obtain ⟨first, pieces, rfl, hpieces⟩ := ih hleft
    refine ⟨[], first :: pieces, ?_, List.forall_mem_cons.2 ⟨rfl, hpieces⟩⟩
    rw [List.intercalate_cons_cons, List.nil_append]

end Removal

/-! ### The walk through a text -/

section Walk

variable {mark text : List Char}

theorem removeOccurrences_eq_drop (mark : List Char) (skip : Nat) (text : List Char) :
    removeOccurrences mark skip text = removeOccurrences mark 0 (text.drop skip) := by
  induction text generalizing skip with
  | nil => cases skip <;> rfl
  | cons c text ih =>
    cases skip with
    | zero => rfl
    | succ skip => rw [removeOccurrences, ih, List.drop_succ_cons]

theorem removeOccurrences_append (hmark : mark ≠ []) (text : List Char) :
    removeOccurrences mark 0 (mark ++ text) = removeOccurrences mark 0 text := by
  obtain ⟨c, cs, rfl⟩ := List.exists_cons_of_ne_nil hmark
  have hprefix : (c :: cs).isPrefixOf (c :: (cs ++ text)) = true :=
    List.isPrefixOf_iff_prefix.2 (List.prefix_append (c :: cs) text)
  rw [List.cons_append, removeOccurrences, if_pos hprefix, removeOccurrences_eq_drop,
    List.length_cons, Nat.add_sub_cancel, List.drop_left]

theorem removeOccurrences_cons {c : Char} (h : ¬ mark <+: c :: text) :
    removeOccurrences mark 0 (c :: text) = c :: removeOccurrences mark 0 text := by
  rw [removeOccurrences, if_neg (mt List.isPrefixOf_iff_prefix.1 h)]

/-- The walk takes out occurrences such that each occurrence begins within one of these. -/
theorem exists_removal (hmark : mark ≠ []) (text : List Char) :
    ∃ rests, Removal mark text rests (removeOccurrences mark 0 text) ∧
      ∀ rest, mark ++ rest <:+ text → ∃ first ∈ rests,
        rest.length ≤ first.length ∧ first.length < rest.length + mark.length := by
  -- The walk goes on behind an occurrence, so the induction is on the length.
  induction hlength : text.length using Nat.strongRecOn generalizing text with
  | ind n ih =>
    by_cases hprefix : mark <+: text
    · obtain ⟨text, rfl⟩ := hprefix
      have hpos := List.length_pos_of_ne_nil hmark
      rw [List.length_append] at hlength
      obtain ⟨rests, hrests, hcover⟩ := ih text.length (by omega) text rfl
      rw [removeOccurrences_append hmark]
      refine ⟨text :: rests, hrests.takeOut, fun rest hrest => ?_⟩
      by_cases hlater : (mark ++ rest).length ≤ text.length
      · obtain ⟨first, hfirst, hbegins⟩ := hcover rest
          (List.suffix_of_suffix_length_le hrest (List.suffix_append mark text) hlater)
        exact ⟨first, List.mem_cons_of_mem _ hfirst, hbegins⟩
      · refine ⟨text, List.mem_cons_self, ?_⟩
        have hle := hrest.length_le
        simp only [List.length_append] at hlater hle
        omega
    · cases text with
      | nil =>
        refine ⟨[], .nil, fun rest hrest => ?_⟩
        exact absurd (List.append_eq_nil_iff.1 (List.suffix_nil.1 hrest)).1 hmark
      | cons c text =>
        rw [List.length_cons] at hlength
        obtain ⟨rests, hrests, hcover⟩ := ih text.length (by omega) text rfl
        rw [removeOccurrences_cons hprefix]
        refine ⟨rests, hrests.keep c, fun rest hrest => ?_⟩
        rcases List.suffix_cons_iff.1 hrest with hwhole | hlater
        · exact absurd ⟨rest, hwhole⟩ hprefix
        · exact hcover rest hlater

theorem removeOccurrences_eq_self_iff (hmark : mark ≠ []) :
    removeOccurrences mark 0 text = text ↔ ∀ rest, ¬ mark ++ rest <:+ text := by
  obtain ⟨rests, hrests, hcover⟩ := exists_removal hmark text
  have hlength := hrests.length_eq
  constructor
  · intro hsame rest hrest
    obtain ⟨first, hfirst, -⟩ := hcover rest hrest
    have hnone : rests.length * mark.length = 0 := by
      rw [hsame] at hlength
      omega
    rcases Nat.mul_eq_zero.1 hnone with hnone | hnone
    · exact absurd hfirst (List.length_eq_zero_iff.1 hnone ▸ List.not_mem_nil)
    · exact hmark (List.length_eq_zero_iff.1 hnone)
  · intro hnone
    have hrestsNil : rests = [] :=
      List.eq_nil_iff_forall_not_mem.2 fun rest hrest => hnone rest (hrests.occurs hrest)
    exact (hrestsNil ▸ hrests).eq_of_nil

end Walk

/-! ### Marks that cannot overlap -/

section Apart

variable {m : Char} {ms text : List Char}

/-- Occurrences of a mark with a first character of its own do not overlap. -/
theorem eq_of_overlap (hm : m ∉ ms) {rest first : List Char} (hrest : m :: ms ++ rest <:+ text)
    (hfirst : m :: ms ++ first <:+ text) (hle : rest.length ≤ first.length)
    (hlt : first.length < rest.length + (m :: ms).length) : first = rest := by
  have hlength : (m :: ms ++ rest).length ≤ (m :: ms ++ first).length := by
    simp only [List.length_append]
    omega
  obtain ⟨gap, hgap⟩ := List.suffix_of_suffix_length_le hrest hfirst hlength
  cases gap with
  | nil =>
    rw [List.nil_append] at hgap
    exact (List.append_cancel_left hgap).symm
  | cons g gap =>
    -- The later occurrence would begin within the mark, behind its first character.
    have hinside : gap ++ m :: (ms ++ rest) = ms ++ first := (List.cons.inj hgap).2
    have hgapLength := congrArg List.length hinside
    simp only [List.length_append, List.length_cons] at hgapLength hlt
    rcases List.append_eq_append_iff.1 hinside with ⟨tail, rfl, htail⟩ | ⟨tail, rfl, -⟩
    · cases tail with
      | nil =>
        rw [List.append_nil] at hlt hgapLength
        omega
      | cons c tail =>
        obtain rfl := (List.cons.inj htail).1
        exact absurd (List.mem_append_right gap List.mem_cons_self) hm
    · rw [List.length_append] at hgapLength
      omega

/-- Then every occurrence is taken out, and the outcome tells which ones were. -/
theorem exists_removal_iff (hm : m ∉ ms) {p : List Char → Prop} :
    (∃ rests, Removal (m :: ms) text rests (removeOccurrences (m :: ms) 0 text) ∧
      ∀ rest ∈ rests, p rest) ↔ ∀ rest, m :: ms ++ rest <:+ text → p rest := by
  have hmark : m :: ms ≠ [] := List.cons_ne_nil m ms
  obtain ⟨found, hfound, hcover⟩ := exists_removal hmark text
  constructor
  · rintro ⟨rests, hrests, hp⟩ rest hrest
    have hall : ∀ other, m :: ms ++ other <:+ text → other ∈ found := by
      intro other hother
      obtain ⟨first, hfirst, hle, hlt⟩ := hcover other hother
      rwa [← eq_of_overlap hm hother (hfound.occurs hfirst) hle hlt]
    have hsub : rests.Subperm found := List.subperm_of_subset (hrests.nodup hmark)
      fun other hother => hall other (hrests.occurs hother)
    -- Both leave the same text, so they take out the same number of occurrences.
    have hcount : found.length = rests.length := by
      have htotal := hfound.length_eq.symm.trans hrests.length_eq
      exact Nat.eq_of_mul_eq_mul_right (List.length_pos_of_ne_nil hmark)
        (Nat.add_left_cancel htotal)
    exact hp rest ((hsub.perm_of_length_le (Nat.le_of_eq hcount)).mem_iff.2 (hall rest hrest))
  · intro h
    exact ⟨found, hfound, fun rest hrest => h rest (hfound.occurs hrest)⟩

theorem removeOccurrences_append_of_all {p : Char → Bool} (hm : p m = false) {piece : List Char}
    (hpiece : piece.all p = true) (text : List Char) :
    removeOccurrences (m :: ms) 0 (piece ++ text) =
      piece ++ removeOccurrences (m :: ms) 0 text := by
  induction piece with
  | nil => rfl
  | cons c piece ih =>
    rw [List.all_cons, Bool.and_eq_true] at hpiece
    have hother : ¬ m :: ms <+: c :: (piece ++ text) := by
      rintro ⟨rest, hrest⟩
      obtain rfl := (List.cons.inj hrest).1
      exact Bool.false_ne_true (hm.symm.trans hpiece.1)
    rw [List.cons_append, removeOccurrences_cons hother, ih hpiece.2, List.cons_append]

/-- If the mark begins with another character, nothing but certain characters is left just of the
texts that consist of these and of the mark. -/
theorem all_removeOccurrences_iff {p : Char → Bool} (hm : p m = false) :
    (removeOccurrences (m :: ms) 0 text).all p = true ↔
      ∃ pieces, text = (m :: ms).intercalate pieces ∧ ∀ piece ∈ pieces, piece.all p = true := by
  constructor
  · intro hleft
    obtain ⟨rests, hrests, -⟩ := exists_removal (List.cons_ne_nil m ms) text
    obtain ⟨first, pieces, htext, hpieces⟩ := hrests.exists_pieces hleft
    exact ⟨first :: pieces, htext, hpieces⟩
  · rintro ⟨pieces, rfl, hpieces⟩
    induction pieces with
    | nil => rfl
    | cons first rest ih =>
      rw [List.forall_mem_cons] at hpieces
      cases rest with
      | nil =>
        rw [List.intercalate_singleton, ← List.append_nil first,
          removeOccurrences_append_of_all hm hpieces.1, List.all_append, hpieces.1]
        rfl
      | cons second rest =>
        rw [List.intercalate_cons_cons, List.append_assoc,
          removeOccurrences_append_of_all hm hpieces.1,
          removeOccurrences_append (List.cons_ne_nil m ms), List.all_append, hpieces.1,
          ih hpieces.2, Bool.and_true]

end Apart

def EndsName (rest : List Char) : Prop :=
  ∀ c ∈ rest.head?, c = ':' ∨ c = '@'

instance : (rest : List Char) → Decidable (EndsName rest)
  | [] => isTrue (by simp [EndsName])
  | c :: _ => decidable_of_iff (c = ':' ∨ c = '@') (by simp [EndsName])

/-- The occurrences of a mark can be looked for among the tails of a text. -/
theorem forall_occurrence_iff {mark text : List Char} {p : List Char → Prop} :
    (∀ rest, mark ++ rest <:+ text → p rest) ↔
      ∀ tail ∈ text.tails, mark <+: tail → p (tail.drop mark.length) := by
  simp only [List.mem_tails]
  constructor
  · rintro h tail htail ⟨rest, rfl⟩
    rw [List.drop_left]
    exact h rest htail
  · intro h rest hrest
    have hdrop := h _ hrest (List.prefix_append mark rest)
    rwa [List.drop_left] at hdrop

end Image

namespace VersionEntry

variable {e : VersionEntry}

def mark (e : VersionEntry) : List Char :=
  '_' :: e.version.toList

theorem toList_imageReference (hversion : e.version ≠ "") :
    e.imageReference.toList = Image.removeOccurrences e.mark 0 e.image.toList := by
  rw [imageReference, Image.reference, if_neg hversion, String.toList_ofList]
  rfl

/-- The image that a version runs is the given one less occurrences of the mark, and each occurrence
begins within one that is taken out. It is the given one just if the mark does not occur. If the
version has no underscore, so that occurrences do not overlap, nothing is taken out but what ends
the name of the repository or the text just if each occurrence does. The image is blank just if the
given one consists of the mark and of blanks. -/
theorem imageReference_removes (hversion : e.version ≠ "") :
    (∃ rests, Image.Removal e.mark e.image.toList rests e.imageReference.toList ∧
      ∀ rest, e.mark ++ rest <:+ e.image.toList → ∃ first ∈ rests,
        rest.length ≤ first.length ∧ first.length < rest.length + e.mark.length) ∧
    (e.imageReference = e.image ↔ ∀ rest, ¬ e.mark ++ rest <:+ e.image.toList) ∧
    ('_' ∉ e.version.toList →
      ((∃ rests, Image.Removal e.mark e.image.toList rests e.imageReference.toList ∧
        ∀ rest ∈ rests, Image.EndsName rest) ↔
      ∀ rest, e.mark ++ rest <:+ e.image.toList → Image.EndsName rest)) ∧
    (Text.isAllBlank e.imageReference = true ↔
      ∃ pieces, e.image.toList = e.mark.intercalate pieces ∧
        ∀ piece ∈ pieces, piece.all Text.isBlank = true) := by
  have hmark : e.mark ≠ [] := List.cons_ne_nil _ _
  rw [Text.isAllBlank, ← String.toList_inj, toList_imageReference hversion]
  exact ⟨Image.exists_removal hmark _, Image.removeOccurrences_eq_self_iff hmark,
    fun hm => Image.exists_removal_iff hm, Image.all_removeOccurrences_iff (by decide)⟩

end VersionEntry

namespace Example

def marked : VersionEntry :=
  { version := "v2", image := "registry.local/shop_v2:1.4", minReplicas := 1, maxReplicas := 1
    port := 8080 }

def tenth : VersionEntry :=
  { version := "v1", image := "shop_v10:1", minReplicas := 1, maxReplicas := 1, port := 8080 }

def bare : VersionEntry :=
  { version := "v3", image := "_v3", minReplicas := 1, maxReplicas := 1, port := 8080 }

def counter : CompositeApp :=
  { metadata := { name := some "counter" }, spec := { apps := [tenth, bare] } }

end Example

namespace VersionEntry

theorem imageReference_removes_example :
    Example.marked.version ≠ "" ∧ Example.marked.imageReference ≠ Example.marked.image ∧
    ∃ rests, Image.Removal "_v2".toList Example.marked.image.toList rests
        Example.marked.imageReference.toList ∧
      ∀ rest ∈ rests, Image.EndsName rest := by
  have hversion : Example.marked.version ≠ "" := by decide
  obtain ⟨-, hsame, hends, -⟩ := imageReference_removes hversion
  refine ⟨hversion, fun h => ?_, (hends (by decide)).2 (Image.forall_occurrence_iff.2 (by decide))⟩
  exact hsame.1 h ":1.4".toList (by decide)

/-- A valid app runs an image of another name than the given one, though no occurrence of the mark
ends the name, and it runs a blank one. -/
theorem imageReference_cuts_names :
    Example.counter.validate = .ok () ∧ Example.tenth ∈ Example.counter.spec.apps ∧
    Example.bare ∈ Example.counter.spec.apps ∧ Example.tenth.version ≠ "" ∧
    (∀ rest, Example.tenth.mark ++ rest <:+ Example.tenth.image.toList →
      ¬ Image.EndsName rest) ∧
    Example.tenth.imageReference = "shop0:1" ∧
    Text.isAllBlank Example.bare.imageReference = true := by
  refine ⟨by rfl, List.mem_cons_self, List.mem_cons_of_mem _ List.mem_cons_self, by decide,
    Image.forall_occurrence_iff.2 (by decide), by decide, by decide⟩

end VersionEntry

end CompositeApps
