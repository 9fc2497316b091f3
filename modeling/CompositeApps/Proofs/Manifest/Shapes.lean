import CompositeApps.Manifest.PodShapes
import CompositeApps.Proofs.Json.RoundTrip

/-!
What was read by a shape is read by it as the same: the known fields are kept, and those that are
required are there.
-/

namespace CompositeApps.Shape

open Fields

mutual

/-- No point in time occurs in the shape, nor anything that is taken as it is, and no object has two
fields of one name. -/
def isPlain : Shape → Bool
  | text | int32 | int64 | boolean | intOrText => true
  | timestamp | anything => false
  | list item => item.isPlain
  | dict value => value.isPlain
  | object _ fields => isPlainTable fields

def isPlainTable : Table → Bool
  | [] => true
  | (name, _, shape) :: rest =>
    shape.isPlain && isPlainTable rest && rest.all (·.1 ≠ name)

end

def filled (needed : Bool) (shape : Shape) (found : Option Json) : Option Json :=
  if needed then some (found.getD shape.blank) else found

def withField (name : String) (v : Option Json) (others : List (String × Json)) :
    List (String × Json) :=
  match v with
  | some v => Json.insertField name v others
  | none => others

theorem lookup_withField (name other : String) (v : Option Json) (others : List (String × Json)) :
    Json.lookup other (withField name v others) =
      if name = other then v.or (Json.lookup other others) else Json.lookup other others := by
  cases v with
  | none => simp [withField]
  | some v => simp [withField, Json.lookup_insertField]

variable {name : String} {needed : Bool} {shape : Shape} {rest : Table}

theorem known_cons : known ((name, needed, shape) :: rest) =
    withField name <$> (filled needed shape <$> optional name shape.read) <*> known rest := by
  rw [known]
  rfl

theorem gets_known_cons {l : Layout} {i : Nat} {fits : List (String × Json) → Prop} :
    (known ((name, needed, shape) :: rest)).Gets l i fits ↔
      (optional name shape.read).Gets l i fun found =>
        (known rest).Gets l (i + 1) fun others =>
          fits (withField name (filled needed shape found) others) := by
  rw [known_cons, gets_seq, gets_map, gets_map]
  rfl

/-- Nothing is read under a name that is not in the table. -/
theorem lookup_eq_none_of_known {t : Table} {l : Layout} {i : Nat} {fields : List (String × Json)}
    (h : (known t).read l i = .ok fields) (hname : ∀ row ∈ t, row.1 ≠ name) :
    Json.lookup name fields = none := by
  induction t generalizing i fields with
  | nil =>
    rw [known] at h
    obtain rfl := Except.ok.inj h
    rfl
  | cons row rest ih =>
    obtain ⟨other, needed, shape⟩ := row
    obtain ⟨found, -, others, hothers, rfl⟩ := gets_known_cons.1 ⟨fields, h, rfl⟩
    have hother : other ≠ name := hname _ List.mem_cons_self
    rw [lookup_withField, if_neg hother]
    exact ih hothers fun row hrow => hname row (List.mem_cons_of_mem _ hrow)

/-- Read from an object without fields, a table gives those that are required. -/
theorem known_read_empty (t : Table) (i : Nat) :
    (known t).read (.named []) i = .ok (blankFields t) := by
  induction t generalizing i with
  | nil =>
    rw [known, blankFields]
    rfl
  | cons row rest ih =>
    obtain ⟨name, needed, shape⟩ := row
    have hfound : (optional name shape.read).read (.named []) i = .ok none := rfl
    have hgets : (known ((name, needed, shape) :: rest)).Gets (.named []) i
        (· = blankFields ((name, needed, shape) :: rest)) := by
      refine gets_known_cons.2 ⟨none, hfound, _, ih (i + 1), ?_⟩
      cases needed <;> rfl
    obtain ⟨_, hread, rfl⟩ := hgets
    exact hread

/-- What stands for a required field is read by its shape as it is. -/
theorem exists_read_eq_blank (shape : Shape) (hplain : shape.isPlain = true) :
    ∃ v, shape.read v = .ok shape.blank := by
  cases shape with
  | text => exact ⟨.str "", rfl⟩
  | int32 | int64 | intOrText => exact ⟨.int 0, rfl⟩
  | boolean => exact ⟨.bool false, rfl⟩
  | timestamp | anything => exact absurd hplain (by simp [isPlain])
  | list item => exact ⟨.arr [], rfl⟩
  | dict value => exact ⟨.obj [], rfl⟩
  | object name fields =>
    refine ⟨.obj [], ?_⟩
    have hread : Fields.object name (known fields) (.obj []) = .ok (blankFields fields) :=
      object_of_read (known_read_empty fields 0)
    rw [read, blank]
    exact map_eq_ok.2 ⟨_, hread, rfl⟩

theorem intOrText_roundTrips : Decoder.RoundTrips readIntOrText id := by
  have hwritten : ∀ {v a}, readIntOrText v = .ok a → a = v ∧ v ≠ .null := by
    intro v a h
    cases v with
    | str s => exact ⟨(Except.ok.inj h).symm, by simp⟩
    | int n =>
      by_cases hbounds : -0x80000000 ≤ n ∧ n < 0x80000000
      · have ha : Json.int n = a := by simpa [readIntOrText, hbounds] using h
        exact ⟨ha.symm, by simp⟩
      · exact absurd h (by simp [readIntOrText, hbounds])
    | null | bool | float | arr | obj => exact absurd h (by simp [readIntOrText])
  refine ⟨fun {v a} h => ?_, fun {v a} h => ?_⟩
  · obtain ⟨rfl, -⟩ := hwritten h
    exact h
  · obtain ⟨rfl, hnull⟩ := hwritten h
    exact hnull

theorem list_roundTrips {d : Decoder Json} (hd : d.RoundTrips id) :
    (Decoder.list d).RoundTrips Json.arr := by
  have hwrite : Json.ofList id = Json.arr := funext fun items => congrArg _ (List.map_id items)
  have hitems := hd.list
  rwa [hwrite] at hitems

/-- A field that was found, or that stands for one that was not, is read as the same. -/
theorem read_filled (hshape : shape.read.RoundTrips id)
    (hblank : ∃ v, shape.read v = .ok shape.blank) {l l' : Layout} {i j : Nat} {found : Option Json}
    (hfound : (optional name shape.read).read l i = .ok found)
    (hl : l'.get? name j = filled needed shape found) :
    ∃ again, (optional name shape.read).read l' j = .ok again ∧
      filled needed shape again = filled needed shape found := by
  cases found with
  | some v =>
    have hheld : filled needed shape (some v) = some v := by cases needed <;> rfl
    obtain ⟨v', hv'⟩ := exists_of_optional hfound
    exact ⟨some v, field_eq_ok.2 (Or.inl ⟨v, hl.trans hheld, hshape.nullable hv'⟩), rfl⟩
  | none =>
    obtain ⟨v, hv⟩ := hblank
    cases needed with
    | true =>
      exact ⟨some shape.blank, field_eq_ok.2 (Or.inl ⟨_, hl, hshape.nullable hv⟩), rfl⟩
    | false => exact ⟨none, field_eq_ok.2 (Or.inr ⟨hl, rfl⟩), rfl⟩

mutual

/-- What was read by a plain shape is read by it as the same. -/
theorem read_roundTrips (shape : Shape) (hplain : shape.isPlain = true) :
    shape.read.RoundTrips id := by
  cases shape with
  | text => exact Decoder.RoundTrips.text.rewritten
  | int32 => exact Decoder.RoundTrips.int32.rewritten
  | int64 => exact Decoder.RoundTrips.int64.rewritten
  | boolean => exact Decoder.RoundTrips.boolean.rewritten
  | intOrText => exact intOrText_roundTrips
  | timestamp | anything => exact absurd hplain (by simp [isPlain])
  | list item => exact (list_roundTrips (read_roundTrips item hplain)).rewritten
  | dict value => exact (read_roundTrips value hplain).dict.rewritten
  | object name fields =>
    have hfields : (Fields.object name (known fields)).RoundTrips Json.obj := by
      refine object_roundTrips (fun _ => Json.shows_obj _) fun {l l' entries} hl h => ?_
      obtain ⟨_, hread, rfl⟩ := h
      exact ⟨_, known_read fields hplain hread fun row _ j => hl row.1 j, rfl⟩
    exact hfields.rewritten

/-- The fields that were read by a plain table are read by it as the same. -/
theorem known_read (t : Table) (hplain : isPlainTable t = true) {l l' : Layout} {i j : Nat}
    {fields : List (String × Json)} (h : (known t).read l i = .ok fields)
    (hl : ∀ row ∈ t, ∀ j, l'.get? row.1 j = Json.lookup row.1 fields) :
    (known t).read l' j = .ok fields := by
  match t with
  | [] =>
    rw [known] at h ⊢
    exact h
  | (name, needed, shape) :: rest =>
    simp only [isPlainTable, Bool.and_eq_true, List.all_eq_true, decide_eq_true_eq] at hplain
    obtain ⟨⟨hshape, hrest⟩, hnames⟩ := hplain
    obtain ⟨found, hfound, others, hothers, rfl⟩ := gets_known_cons.1 ⟨fields, h, rfl⟩
    -- No later row has the name of the first one, so that neither hides what the other has read.
    have hname : Json.lookup name others = none := lookup_eq_none_of_known hothers hnames
    have hfirst : l'.get? name j = filled needed shape found := by
      rw [hl _ List.mem_cons_self j, lookup_withField, if_pos rfl, hname, Option.or_none]
    have hlater : ∀ row ∈ rest, ∀ j, l'.get? row.1 j = Json.lookup row.1 others := by
      intro row hrow j
      rw [hl row (List.mem_cons_of_mem _ hrow) j, lookup_withField, if_neg (hnames row hrow).symm]
    obtain ⟨again, hagain, hsame⟩ := read_filled (read_roundTrips shape hshape)
      (exists_read_eq_blank shape hshape) hfound hfirst
    obtain ⟨_, hread, rfl⟩ := gets_known_cons.2
      ⟨again, hagain, others, known_read rest hrest hothers hlater, rfl⟩
    rw [hread, hsame]

end

end CompositeApps.Shape

namespace CompositeApps

theorem Decoder.RoundTrips.shapes {item : Shape} (hplain : item.isPlain = true) :
    (Decoder.list item.read).RoundTrips .arr :=
  Shape.list_roundTrips (Shape.read_roundTrips item hplain)

theorem Layout.Shows.shape {s : Shape} {l l' : Layout} {get : String → Option Json}
    {name : String} {i j : Nat} {a : Option Json} (hl : l'.Shows get) (hplain : s.isPlain = true)
    (hread : (Fields.optional name s.read).read l i = .ok a) (hget : get name = a) :
    (Fields.optional name s.read).read l' j = .ok a := by
  refine hl.optional (Shape.read_roundTrips s hplain) hread ?_
  rw [hget, Option.map_id]
  rfl

end CompositeApps
