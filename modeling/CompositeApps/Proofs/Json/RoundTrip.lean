import CompositeApps.Json.Decoder
import CompositeApps.Proofs.Success

/-!
Round trips: what was read is written in a form that is read as the same. A record has that law if
each of its fields has it and is written under the name that it is read by, or left out just where
a field that is missing is read as the same.
-/

namespace CompositeApps

namespace Json

theorem lookup_insertField (name other : String) (v : Json) (fields : List (String × Json)) :
    lookup other (insertField name v fields) =
      if name = other then some v else lookup other fields := by
  induction fields with
  | nil => rfl
  | cons field rest ih =>
    obtain ⟨k, old⟩ := field
    unfold insertField
    by_cases hsame : name = k
    · subst hsame
      by_cases hother : name = other <;> simp [lookup, hother]
    · rw [if_neg hsame]
      by_cases hbefore : name < k
      · simp [hbefore, lookup]
      · rw [if_neg hbefore, lookup, ih, lookup]
        by_cases hother : name = other
        · subst hother
          simp [Ne.symm hsame]
        · simp [hother]

/-- What is written under a name: of several fields with that name, the last that has a value. -/
def written? (name : String) : Entries → Option Json
  | [] => none
  | (k, v) :: rest => if k = name then (written? name rest).or v else written? name rest

def Shows (v : Json) (get : String → Option Json) : Prop :=
  ∃ fields, v = .obj fields ∧ ∀ name, lookup name fields = get name

theorem shows_obj (fields : List (String × Json)) : (obj fields).Shows (lookup · fields) :=
  ⟨fields, rfl, fun _ => rfl⟩

/-- The fields are put in one by one, each in place of what was put in before it. -/
theorem lookup_foldl_insertField (entries : Entries) (past : List (String × Json)) (name : String) :
    lookup name ((entries.filterMap fun (k, v) => v.map (k, ·)).foldl
      (fun fields (k, v) => insertField k v fields) past) =
        (written? name entries).or (lookup name past) := by
  induction entries generalizing past with
  | nil => rfl
  | cons entry rest ih =>
    obtain ⟨k, _ | v⟩ := entry
    · simpa [written?] using ih past
    · have hrest := ih (insertField k v past)
      rw [lookup_insertField] at hrest
      by_cases hname : k = name
      · simpa [written?, hname] using hrest
      · simpa [written?, hname] using hrest

theorem shows_ofOptionalFields (entries : Entries) :
    (ofOptionalFields entries).Shows (written? · entries) := by
  refine ⟨_, rfl, fun name => ?_⟩
  simpa [lookup] using lookup_foldl_insertField entries [] name

end Json

def Layout.Shows (l : Layout) (get : String → Option Json) : Prop :=
  ∀ name i, l.get? name i = get name

namespace Decoder

variable {α : Type}

structure RoundTrips (d : Decoder α) (write : α → Json) : Prop where
  read : ∀ {v a}, d v = .ok a → d (write a) = .ok a
  ne_null : ∀ {v a}, d v = .ok a → write a ≠ .null

theorem integer_eq_ok {name : String} {lo hi : Int} {v : Json} {n : Int} :
    integer name lo hi v = .ok n ↔ v = .int n ∧ lo ≤ n ∧ n ≤ hi := by
  cases v with
  | int i =>
    by_cases hbounds : lo ≤ i ∧ i ≤ hi
    · simp only [integer, hbounds, decide_true, Bool.and_self, if_true, Except.ok.injEq,
        Json.int.injEq]
      constructor
      · rintro rfl
        exact ⟨rfl, hbounds⟩
      · exact And.left
    · have hfails : integer name lo hi (.int i) = .error (.wrongValue (.int i) name) := by
        simpa [integer] using hbounds
      rw [hfails]
      constructor
      · exact fun h => absurd h (by simp)
      · rintro ⟨hn, hn'⟩
        obtain rfl := Json.int.inj hn
        exact absurd hn' hbounds
  | null | bool | float | str | arr | obj => simp [integer]

theorem finite_eq_ok {found : Json} {x y : Binary64} :
    finite found x = .ok y ↔ x = y ∧ x.isFinite = true := by
  unfold finite
  split
  · rename_i h
    simp only [h, Except.ok.injEq, and_true]
  · rename_i h
    simp only [h, reduceCtorEq, and_false]

/-- No number but a finite one is read. -/
theorem isFinite_of_binary64 {v : Json} {x : Binary64} (h : binary64 v = .ok x) :
    x.isFinite = true := by
  cases v with
  | int i | float y =>
    obtain ⟨rfl, hfinite⟩ := finite_eq_ok.1 h
    exact hfinite
  | null | bool | str | arr | obj => exact absurd h (by simp [binary64])

/-- A number is read from its written form just if it is finite. -/
theorem binary64_ofBinary64_eq_ok {x y : Binary64} :
    binary64 (.ofBinary64 x) = .ok y ↔ x = y ∧ x.isFinite = true := by
  unfold Json.ofBinary64
  split
  · exact finite_eq_ok
  · rename_i h
    simp only [binary64, h, reduceCtorEq, and_false]

theorem nullable_eq_some {d : Decoder α} {v : Json} {a : α}
    (h : nullable d v = .ok (some a)) : d v = .ok a := by
  unfold nullable at h
  split at h
  · exact absurd h (by simp)
  · obtain ⟨b, hb, hba⟩ := map_eq_ok.1 h
    rw [hb, Option.some.inj hba]

/-- Values survive being written and read again, and what was written as soon as it was read does
not change when that is done once more. -/
structure Survives (d : Decoder α) (write : α → Json) : Prop where
  value : ∀ v a, d v = .ok a → d (write a) = .ok a
  written : ∀ v w, write <$> d v = .ok w → write <$> d w = .ok w

namespace RoundTrips

theorem of_forall {d : Decoder α} {write : α → Json}
    (hread : ∀ a, d (write a) = .ok a) (hnull : ∀ a, write a ≠ .null) : d.RoundTrips write :=
  ⟨fun _ => hread _, fun _ => hnull _⟩

theorem text : Decoder.text.RoundTrips .str :=
  .of_forall (fun _ => rfl) nofun

theorem boolean : Decoder.boolean.RoundTrips .bool :=
  .of_forall (fun _ => rfl) nofun

theorem binary64 : Decoder.binary64.RoundTrips .ofBinary64 := by
  refine ⟨fun {v x} h => ?_, fun {v x} h => ?_⟩
  · exact binary64_ofBinary64_eq_ok.2 ⟨rfl, isFinite_of_binary64 h⟩
  · rw [Json.ofBinary64, if_pos (isFinite_of_binary64 h)]
    simp

theorem integer (name : String) (lo hi : Int) : (Decoder.integer name lo hi).RoundTrips .int :=
  ⟨fun h => integer_eq_ok.2 ⟨rfl, (integer_eq_ok.1 h).2⟩, nofun⟩

theorem int32 : Decoder.int32.RoundTrips .int :=
  integer ..

theorem int64 : Decoder.int64.RoundTrips .int :=
  integer ..

theorem natural (name : String) (most : Nat) :
    (Decoder.natural name most).RoundTrips fun n => .int n := by
  refine ⟨fun {v a} h => ?_, nofun⟩
  obtain ⟨n, hn, rfl⟩ := map_eq_ok.1 h
  obtain ⟨-, hpos, hmost⟩ := integer_eq_ok.1 hn
  have htoNat : (n.toNat : Int) = n := Int.toNat_of_nonneg hpos
  refine map_eq_ok.2 ⟨n, ?_, rfl⟩
  rw [htoNat]
  exact integer_eq_ok.2 ⟨rfl, hpos, hmost⟩

theorem uint32 : Decoder.uint32.RoundTrips fun n => .int n :=
  natural ..

variable {d : Decoder α} {write : α → Json}

theorem nullable (hd : d.RoundTrips write) {v : Json} {a : α} (hv : d v = .ok a) :
    Decoder.nullable d (write a) = .ok (some a) := by
  have hread := hd.read hv
  have hnull := hd.ne_null hv
  unfold Decoder.nullable
  split
  · exact absurd ‹_› hnull
  · rw [hread]
    rfl

/-- What is written as soon as it is read is read and written as it is. -/
theorem rewritten (hd : d.RoundTrips write) : Decoder.RoundTrips (fun v => write <$> d v) id := by
  refine ⟨fun {v a} h => ?_, fun {v a} h => ?_⟩
  · obtain ⟨read, hread, rfl⟩ := map_eq_ok.1 h
    exact map_eq_ok.2 ⟨read, hd.read hread, rfl⟩
  · obtain ⟨read, hread, rfl⟩ := map_eq_ok.1 h
    exact hd.ne_null hread

theorem survives (hd : d.RoundTrips write) : d.Survives write :=
  ⟨fun _ _ => hd.read, fun _ _ => hd.rewritten.read⟩

theorem mapM_map (hd : d.RoundTrips write) {read : List Json} {items : List α}
    (h : read.mapM d = .ok items) : (items.map write).mapM d = .ok items := by
  induction read generalizing items with
  | nil =>
    obtain rfl := Except.ok.inj h
    rfl
  | cons first rest ih =>
    rw [List.mapM_cons, bind_eq_ok] at h
    obtain ⟨a, ha, hrest⟩ := h
    obtain ⟨as, has, hitems⟩ := bind_eq_ok.1 hrest
    obtain rfl := Except.ok.inj hitems
    rw [List.map_cons, List.mapM_cons, hd.read ha, ih has]
    rfl

theorem list (hd : d.RoundTrips write) : (Decoder.list d).RoundTrips (Json.ofList write) := by
  refine ⟨fun {v items} h => ?_, nofun⟩
  cases v with
  | arr read => exact hd.mapM_map h
  | null | bool | int | float | str | obj => exact absurd h (by simp [Decoder.list])

end RoundTrips

variable {d : Decoder α} {write : α → Json}

/-- What a map holds was read, or was there before. -/
theorem exists_of_foldlM_insert {fields : List (String × Json)} {start m : Dict α}
    (h : fields.foldlM (fun m (k, v) => m.insert k <$> d v) start = .ok m) {k : String} {a : α}
    (ha : m[k]? = some a) : (∃ v, d v = .ok a) ∨ start[k]? = some a := by
  induction fields generalizing start with
  | nil =>
    obtain rfl := Except.ok.inj h
    exact Or.inr ha
  | cons field rest ih =>
    obtain ⟨name, v⟩ := field
    rw [List.foldlM_cons, bind_eq_ok] at h
    obtain ⟨next, hnext, hrest⟩ := h
    obtain ⟨b, hb, rfl⟩ := map_eq_ok.1 hnext
    rcases ih hrest with hread | hstored
    · exact Or.inl hread
    · rw [Std.ExtTreeMap.getElem?_insert] at hstored
      split at hstored
      · exact Or.inl ⟨v, by rw [hb, Option.some.inj hstored]⟩
      · exact Or.inr hstored

theorem foldlM_insert_map {entries : List (String × α)}
    (h : ∀ entry ∈ entries, d (write entry.2) = .ok entry.2) (start : Dict α) :
    (entries.map fun (k, a) => (k, write a)).foldlM (fun m (k, v) => m.insert k <$> d v) start =
      .ok (entries.foldl (fun m (k, a) => m.insert k a) start) := by
  induction entries generalizing start with
  | nil => rfl
  | cons entry rest ih =>
    obtain ⟨k, a⟩ := entry
    have ha : d (write a) = .ok a := h (k, a) List.mem_cons_self
    rw [List.map_cons, List.foldlM_cons]
    dsimp only
    rw [ha]
    exact ih (fun other hother => h other (List.mem_cons_of_mem _ hother)) (start.insert k a)

/-- The entries of a map put into an empty one give the same map. -/
theorem foldl_insert_toList (m : Dict α) :
    m.toList.foldl (fun m (k, a) => m.insert k a) (∅ : Dict α) = m := by
  have hlist : m.toList.foldl (fun m (k, a) => m.insert k a) (∅ : Dict α) =
      Std.ExtTreeMap.ofList m.toList compare := Std.ExtTreeMap.ofList_eq_foldl.symm
  rw [hlist]
  refine Std.ExtTreeMap.ext_getElem? fun k => ?_
  cases hk : m[k]? with
  | some a =>
    exact Std.ExtTreeMap.getElem?_ofList_of_mem Std.ReflCmp.compare_self
      Std.ExtTreeMap.distinct_keys_toList (Std.ExtTreeMap.mem_toList_iff_getElem?_eq_some.2 hk)
  | none =>
    refine Std.ExtTreeMap.getElem?_ofList_of_contains_eq_false ?_
    rw [Std.ExtTreeMap.map_fst_toList_eq_keys, Std.ExtTreeMap.contains_keys,
      ← Bool.not_eq_true, Std.ExtTreeMap.contains_iff_mem]
    simpa using hk

theorem RoundTrips.dict (hd : d.RoundTrips write) :
    (Decoder.dict d).RoundTrips (Json.ofDict write) := by
  refine ⟨fun {v m} h => ?_, nofun⟩
  cases v with
  | obj fields =>
    have hheld : ∀ entry ∈ m.toList, d (write entry.2) = .ok entry.2 := by
      intro entry hentry
      have hstored := Std.ExtTreeMap.mem_toList_iff_getElem?_eq_some.1 hentry
      rcases exists_of_foldlM_insert h hstored with ⟨v, hv⟩ | hnone
      · exact hd.read hv
      · exact absurd hnone (by simp)
    have hfold := foldlM_insert_map hheld ∅
    rw [foldl_insert_toList] at hfold
    exact hfold
  | null | bool | int | float | str | arr => exact absurd h (by simp [Decoder.dict])

end Decoder

namespace Fields

variable {α β : Type}

/-- The fields can be read, and what is read goes on to fit. -/
abbrev Gets (f : Fields α) (l : Layout) (i : Nat) (fits : α → Prop) : Prop :=
  ∃ a, f.read l i = .ok a ∧ fits a

variable {l : Layout} {i : Nat} {fits : β → Prop}

theorem gets_seq {f : Fields (α → β)} {x : Fields α} :
    (f <*> x).Gets l i fits ↔
      f.Gets l i fun g => x.Gets l (i + f.size) fun a => fits (g a) := by
  have hseq : (f <*> x).read l i = (seq f fun _ => x).read l i := rfl
  unfold Gets
  rw [hseq]
  dsimp only [seq]
  cases f.read l i <;> cases x.read l (i + f.size) <;> simp

theorem gets_map {g : α → β} {x : Fields α} :
    (g <$> x).Gets l i fits ↔ x.Gets l i fun a => fits (g a) := by
  have hpure : (pure g : Fields (α → β)).Gets l i (fun g => x.Gets l i fun a => fits (g a)) ↔
      x.Gets l i fun a => fits (g a) := by
    constructor
    · rintro ⟨_, hg, h⟩
      obtain rfl := Except.ok.inj hg
      exact h
    · exact fun h => ⟨g, rfl, h⟩
  exact gets_seq.trans hpure

end Fields

namespace Fields

variable {α : Type} {name : String} {d : Decoder α} {l : Layout} {i : Nat}

theorem field_eq_ok {absent : Option α} {a : α} : (field name absent d).read l i = .ok a ↔
    (∃ v, l.get? name i = some v ∧ d v = .ok a) ∨ l.get? name i = none ∧ absent = some a := by
  cases hfound : l.get? name i with
  | none => cases absent <;> simp [field, hfound]
  | some v => simp [field, hfound, mapError_eq_ok]

theorem exists_of_required {a : α} (h : (required name d).read l i = .ok a) :
    ∃ v, d v = .ok a := by
  rcases field_eq_ok.1 h with ⟨v, -, hv⟩ | ⟨-, habsent⟩
  · exact ⟨v, hv⟩
  · exact absurd habsent (by simp)

theorem exists_of_optional {a : α} (h : (optional name d).read l i = .ok (some a)) :
    ∃ v, d v = .ok a := by
  rcases field_eq_ok.1 h with ⟨v, -, hv⟩ | ⟨-, habsent⟩
  · exact ⟨v, Decoder.nullable_eq_some hv⟩
  · exact absurd habsent (by simp)

theorem orDefault_eq_ok {default a : α} : (orDefault name default d).read l i = .ok a ↔
    ∃ found, (optional name d).read l i = .ok found ∧ found.getD default = a := by
  have hmap : (orDefault name default d).Gets l i (· = a) ↔
      (optional name d).Gets l i (·.getD default = a) := gets_map
  constructor
  · exact fun h => hmap.1 ⟨a, h, rfl⟩
  · intro h
    obtain ⟨_, hread, rfl⟩ := hmap.2 h
    exact hread

end Fields

namespace Layout.Shows

variable {α : Type} {l l' : Layout} {get : String → Option Json} {name : String} {d : Decoder α}
  {write : α → Json} {i j : Nat} {a : α}

/-! A field that is written is read as the same, and so is one that is left out where it may be
missing. What was read in one layout is read in another one that shows the written form. -/

theorem found {absent : Option α} {v : Json} (hl : l'.Shows get) (hget : get name = some v)
    (hv : d v = .ok a) : (Fields.field name absent d).read l' j = .ok a :=
  Fields.field_eq_ok.2 (Or.inl ⟨v, (hl name j).trans hget, hv⟩)

theorem missing (hl : l'.Shows get) (hget : get name = none) :
    (Fields.field name (some a) d).read l' j = .ok a :=
  Fields.field_eq_ok.2 (Or.inr ⟨(hl name j).trans hget, rfl⟩)

theorem required (hl : l'.Shows get) (hd : d.RoundTrips write)
    (hread : (Fields.required name d).read l i = .ok a) (hget : get name = some (write a)) :
    (Fields.required name d).read l' j = .ok a := by
  obtain ⟨v, hv⟩ := Fields.exists_of_required hread
  exact hl.found hget (hd.read hv)

theorem withDefault {default : α} (hl : l'.Shows get) (hd : d.RoundTrips write)
    (hdefault : d (write default) = .ok default)
    (hread : (Fields.withDefault name default d).read l i = .ok a)
    (hget : get name = some (write a)) :
    (Fields.withDefault name default d).read l' j = .ok a := by
  refine hl.found hget ?_
  rcases Fields.field_eq_ok.1 hread with ⟨v, -, hv⟩ | ⟨-, habsent⟩
  · exact hd.read hv
  · obtain rfl := Option.some.inj habsent
    exact hdefault

/-- A value is left out if it is empty, which is the value that is read where there is none. -/
theorem unlessEmpty {default : α} {isEmpty : α → Bool} (hl : l'.Shows get)
    (hd : d.RoundTrips write) (hempty : ∀ a, isEmpty a = true ↔ a = default)
    (hread : (Fields.withDefault name default d).read l i = .ok a)
    (hget : get name = if isEmpty a then none else some (write a)) :
    (Fields.withDefault name default d).read l' j = .ok a := by
  by_cases ha : a = default
  · rw [if_pos ((hempty a).2 ha)] at hget
    subst ha
    exact hl.missing hget
  · rw [if_neg fun h => ha ((hempty a).1 h)] at hget
    rcases Fields.field_eq_ok.1 hread with ⟨v, -, hv⟩ | ⟨-, habsent⟩
    · exact hl.found hget (hd.read hv)
    · exact absurd (Option.some.inj habsent).symm ha

theorem list {items : List α} (hl : l'.Shows get) (hd : d.RoundTrips write)
    (hread : (Fields.withDefault name [] (Decoder.list d)).read l i = .ok items)
    (hget : get name = if items.isEmpty then none else some (Json.ofList write items)) :
    (Fields.withDefault name [] (Decoder.list d)).read l' j = .ok items :=
  hl.unlessEmpty hd.list (fun _ => List.isEmpty_iff) hread hget

theorem dict {m : Dict α} (hl : l'.Shows get) (hd : d.RoundTrips write)
    (hread : (Fields.withDefault name ∅ (Decoder.dict d)).read l i = .ok m)
    (hget : get name = if m.isEmpty then none else some (Json.ofDict write m)) :
    (Fields.withDefault name ∅ (Decoder.dict d)).read l' j = .ok m :=
  hl.unlessEmpty hd.dict (fun _ => Std.ExtTreeMap.isEmpty_iff) hread hget

theorem optional {a : Option α} (hl : l'.Shows get) (hd : d.RoundTrips write)
    (hread : (Fields.optional name d).read l i = .ok a) (hget : get name = a.map write) :
    (Fields.optional name d).read l' j = .ok a := by
  cases a with
  | none => exact hl.missing hget
  | some a =>
    obtain ⟨v, hv⟩ := Fields.exists_of_optional hread
    exact hl.found hget (hd.nullable hv)

theorem orDefault {default : α} (hl : l'.Shows get) (hd : d.RoundTrips write)
    (hdefault : d (write default) = .ok default)
    (hread : (Fields.orDefault name default d).read l i = .ok a)
    (hget : get name = some (write a)) :
    (Fields.orDefault name default d).read l' j = .ok a := by
  obtain ⟨found, hfound, rfl⟩ := Fields.orDefault_eq_ok.1 hread
  refine Fields.orDefault_eq_ok.2 ⟨some (found.getD default), hl.found hget ?_, rfl⟩
  cases found with
  | none => exact hd.nullable hdefault
  | some a =>
    obtain ⟨v, hv⟩ := Fields.exists_of_optional hfound
    exact hd.nullable hv

end Layout.Shows

namespace Decoder.RoundTrips

variable {α : Type} {fields : Fields α} {write : α → Json} {get : α → String → Option Json}

/-- A record round trips if its fields can be read from whatever shows its written form. -/
theorem of_fields {d : Decoder α} (hsound : ∀ {v a}, d v = .ok a → ∃ l, fields.read l 0 = .ok a)
    (hobject : ∀ {entries a}, fields.read (.named entries) 0 = .ok a → d (.obj entries) = .ok a)
    (hshows : ∀ a, (write a).Shows (get a))
    (hfields : ∀ {l l' a}, Layout.Shows l' (get a) → fields.Gets l 0 (· = a) →
      fields.Gets l' 0 (· = a)) : d.RoundTrips write := by
  refine ⟨fun {v a} h => ?_, fun {v a} _ => ?_⟩
  · obtain ⟨l, hread⟩ := hsound h
    obtain ⟨entries, hwrite, hget⟩ := hshows a
    have hlayout : Layout.Shows (.named entries) (get a) := fun name _ => hget name
    obtain ⟨_, hsame, rfl⟩ := hfields hlayout ⟨a, hread, rfl⟩
    rw [hwrite]
    exact hobject hsame
  · obtain ⟨entries, hwrite, -⟩ := hshows a
    rw [hwrite]
    simp

end Decoder.RoundTrips

namespace Fields

variable {α : Type} {fields : Fields α} {name : String} {entries : List (String × Json)} {v : Json}
  {a : α} {write : α → Json} {get : α → String → Option Json}

theorem record_of_read (h : fields.read (.named entries) 0 = .ok a) :
    record name fields (.obj entries) = .ok a := by
  rw [record, h]
  rfl

theorem object_of_read (h : fields.read (.named entries) 0 = .ok a) :
    object name fields (.obj entries) = .ok a := by
  rw [object, h]
  rfl

theorem exists_read_of_object (h : object name fields v = .ok a) :
    ∃ l, fields.read l 0 = .ok a := by
  cases v with
  | obj entries => exact ⟨.named entries, mapError_eq_ok.1 h⟩
  | null | bool | int | float | str | arr => exact absurd h (by simp [object])

theorem exists_read_of_record (h : record name fields v = .ok a) :
    ∃ l, fields.read l 0 = .ok a := by
  cases v with
  | obj entries => exact ⟨.named entries, mapError_eq_ok.1 h⟩
  | arr items =>
    obtain ⟨b, hb, hrest⟩ := bind_eq_ok.1 h
    have hsame : b = a := by
      dsimp only at hrest
      split at hrest
      · exact absurd hrest (by simp [throw, throwThe, MonadExceptOf.throw, bind, Except.bind])
      · exact Except.ok.inj hrest
    exact ⟨.positional items, mapError_eq_ok.1 (hsame ▸ hb)⟩
  | null | bool | int | float | str => exact absurd h (by simp [record])

theorem record_roundTrips (hshows : ∀ a, (write a).Shows (get a))
    (hfields : ∀ {l l' a}, Layout.Shows l' (get a) → fields.Gets l 0 (· = a) →
      fields.Gets l' 0 (· = a)) : (record name fields).RoundTrips write :=
  .of_fields exists_read_of_record record_of_read hshows hfields

theorem object_roundTrips (hshows : ∀ a, (write a).Shows (get a))
    (hfields : ∀ {l l' a}, Layout.Shows l' (get a) → fields.Gets l 0 (· = a) →
      fields.Gets l' 0 (· = a)) : (object name fields).RoundTrips write :=
  .of_fields exists_read_of_object object_of_read hshows hfields

end Fields

end CompositeApps
