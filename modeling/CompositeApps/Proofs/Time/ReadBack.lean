import CompositeApps.Proofs.Success
import CompositeApps.Proofs.Time.DecimalSeconds

/-!
Spans are written without loss. The reader of spans takes what is written for a span back to that
very span, so writing is one to one, and what has been written once is written in the same way ever
after.
-/

namespace CompositeApps

namespace Text

theorem not_isBlank_of_isDigit {c : Char} (h : c.isDigit = true) : isBlank c = false := by
  simp only [Char.isDigit, Bool.and_eq_true, decide_eq_true_eq, UInt32.le_iff_toNat_le] at h
  have hlow : 48 ≤ c.toNat := h.1
  have hhigh : c.toNat ≤ 57 := h.2
  simp only [isBlank, Bool.or_eq_false_iff, Bool.and_eq_false_iff, decide_eq_false_iff_not,
    beq_eq_false_iff_ne]
  omega

/-- There is nothing to trim where nothing is blank. -/
theorem trimChars_eq_self {cs : List Char} (h : ∀ c ∈ cs, isBlank c = false) :
    trimChars cs = cs := by
  have hdrop : ∀ cs : List Char, (∀ c ∈ cs, isBlank c = false) → cs.dropWhile isBlank = cs := by
    intro cs hcs
    cases cs with
    | nil => rfl
    | cons c rest => rw [List.dropWhile_cons_of_neg (by simp [hcs c List.mem_cons_self])]
  rw [trimChars, hdrop cs h, hdrop cs.reverse fun c hc => h c (List.mem_reverse.1 hc),
    List.reverse_reverse]

theorem le_ofDigitChars (ds : List Char) (n : Nat) : n ≤ Nat.ofDigitChars 10 ds n := by
  rw [Nat.ofDigitChars_eq_ofDigitChars_zero]
  have hpos : 0 < 10 ^ ds.length := Nat.pow_pos (by decide)
  have hle := Nat.le_mul_of_pos_left n hpos
  omega

/-- So many digits are not enough for the next power of ten. -/
theorem ofDigitChars_lt {ds : List Char} (h : ∀ c ∈ ds, c.isDigit = true) :
    Nat.ofDigitChars 10 ds 0 < 10 ^ ds.length := by
  induction ds with
  | nil => decide
  | cons c rest ih =>
    have hc := h c List.mem_cons_self
    simp only [Char.isDigit, Bool.and_eq_true, decide_eq_true_eq, UInt32.le_iff_toNat_le] at hc
    have hhigh : c.toNat ≤ 57 := hc.2
    have hrest := ih fun d hd => h d (List.mem_cons_of_mem c hd)
    rw [Nat.ofDigitChars_cons, Nat.ofDigitChars_eq_ofDigitChars_zero, List.length_cons,
      Nat.pow_succ]
    have hdigit : 10 * 0 + (c.toNat - '0'.toNat) ≤ 9 := by
      have hzero : '0'.toNat = 48 := rfl
      omega
    have hmul := Nat.mul_le_mul_left (10 ^ rest.length) hdigit
    omega

end Text

namespace Duration

def pointed : List Char → List Char
  | [] => []
  | places => '.' :: places

theorem pointed_of_ne_nil {places : List Char} (h : places ≠ []) :
    pointed places = '.' :: places := by
  cases places with
  | nil => exact absurd rfl h
  | cons c rest => rfl

/-- Decimal places that are exactly the nanoseconds of a span: none, three, six or nine digits. -/
structure Tells (d : Duration) (places : List Char) : Prop where
  isDigit_of_mem : ∀ c ∈ places, c.isDigit = true
  count : places.length ∈ [0, 3, 6, 9]
  exact : Nat.ofDigitChars 10 places 0 * 10 ^ (9 - places.length) = d.nanos

def IsWritten (d : Duration) (text : String) : Prop :=
  ∃ places, text = String.ofList (Nat.toDigits 10 d.secs ++ pointed places ++ ['s']) ∧
    d.Tells places ∧ ∀ others, d.Tells others → places.length ≤ others.length

namespace Reader

/-- The characters take a reader to a place in the text. Offsets matter in errors only. -/
def Reads (r : Reader) (cs : List Char) (total : Duration) (cursor : Cursor) : Prop :=
  ∃ offset, cs.foldlM advance r = .ok ⟨total, offset, cursor⟩

variable {r : Reader} {total next : Duration} {cursor after : Cursor} {c : Char} {cs : List Char}
  {offset n : Nat}

theorem Reads.nil : Reads ⟨total, offset, cursor⟩ [] total cursor :=
  ⟨offset, rfl⟩

theorem Reads.cons (hc : r.next c = .ok (next, after))
    (hcs : Reads ⟨next, r.offset + c.utf8Size, after⟩ cs total cursor) :
    Reads r (c :: cs) total cursor := by
  obtain ⟨last, hlast⟩ := hcs
  refine ⟨last, ?_⟩
  rw [List.foldlM_cons, bind_eq_ok]
  exact ⟨_, bind_eq_ok.2 ⟨_, hc, rfl⟩, hlast⟩

theorem Reads.append {front : List Char} (hfront : Reads r front next after)
    (hcs : ∀ offset, Reads ⟨next, offset, after⟩ cs total cursor) :
    Reads r (front ++ cs) total cursor := by
  obtain ⟨mid, hmid⟩ := hfront
  obtain ⟨last, hlast⟩ := hcs mid
  exact ⟨last, by rw [List.foldlM_append, hmid]; exact hlast⟩

/-- More digits of a number, as long as the number fits. -/
theorem reads_digits (hdigits : ∀ c ∈ cs, c.isDigit = true)
    (hfits : Nat.ofDigitChars 10 cs n < 0x10000000000000000) :
    Reads ⟨total, offset, .digits n⟩ cs total (.digits (Nat.ofDigitChars 10 cs n)) := by
  induction cs generalizing n offset with
  | nil => exact .nil
  | cons c rest ih =>
    have hstep : n * 10 + digitValue c = 10 * n + (c.toNat - '0'.toNat) := by
      rw [Nat.mul_comm, digitValue]
    rw [Nat.ofDigitChars_cons, ← hstep] at hfits ⊢
    have hnext : fitting (n * 10 + digitValue c) = .ok (n * 10 + digitValue c) :=
      if_pos (lt_of_le_of_lt (Text.le_ofDigitChars rest _) hfits)
    refine .cons ?_ (ih (fun d hd => hdigits d (List.mem_cons_of_mem c hd)) hfits)
    simp only [Reader.next, if_pos (hdigits c List.mem_cons_self), hnext]
    rfl

/-- The digits before a point or a unit. -/
theorem reads_whole (hne : cs ≠ []) (hdigits : ∀ c ∈ cs, c.isDigit = true)
    (hfits : Nat.ofDigitChars 10 cs 0 < 0x10000000000000000) :
    Reads start cs zero (.digits (Nat.ofDigitChars 10 cs 0)) := by
  cases cs with
  | nil => exact absurd rfl hne
  | cons c rest =>
    have hfirst : digitValue c = 10 * 0 + (c.toNat - '0'.toNat) := by
      rw [Nat.mul_zero, Nat.zero_add, digitValue]
    rw [Nat.ofDigitChars_cons, ← hfirst] at hfits ⊢
    refine .cons ?_ (reads_digits (fun d hd => hdigits d (List.mem_cons_of_mem c hd)) hfits)
    simp only [Reader.next, start, if_pos (hdigits c List.mem_cons_self)]
    rfl

/-- The digits of a fraction. Each makes the denominator ten times as large. -/
theorem reads_places {f : Fraction} (position mark : Nat) (hdigits : ∀ c ∈ cs, c.isDigit = true)
    (hdenominator : f.denominator * 10 ^ cs.length < 0x10000000000000000)
    (hnumerator : Nat.ofDigitChars 10 cs f.numerator < 0x10000000000000000) :
    ∃ mark', Reads ⟨total, position, .fraction n f mark⟩ cs total (.fraction n
      ⟨Nat.ofDigitChars 10 cs f.numerator, f.denominator * 10 ^ cs.length⟩ mark') := by
  induction cs generalizing f position mark with
  | nil => exact ⟨mark, by simpa using Reads.nil⟩
  | cons c rest ih =>
    have hstep : f.numerator * 10 + digitValue c =
        10 * f.numerator + (c.toNat - '0'.toNat) := by
      rw [Nat.mul_comm, digitValue]
    rw [Nat.ofDigitChars_cons, ← hstep] at hnumerator ⊢
    rw [List.length_cons, Nat.pow_succ', ← Nat.mul_assoc] at hdenominator ⊢
    have hten : fitting (f.denominator * 10) = .ok (f.denominator * 10) :=
      if_pos (lt_of_le_of_lt (Nat.le_mul_of_pos_right _ (Nat.pow_pos (by decide))) hdenominator)
    have hnext : fitting (f.numerator * 10 + digitValue c) =
        .ok (f.numerator * 10 + digitValue c) :=
      if_pos (lt_of_le_of_lt (Text.le_ofDigitChars rest _) hnumerator)
    obtain ⟨mark', hrest⟩ :=
      ih (f := ⟨f.numerator * 10 + digitValue c, f.denominator * 10⟩)
        (position + c.utf8Size) (position + c.utf8Size)
        (fun d hd => hdigits d (List.mem_cons_of_mem c hd)) hdenominator hnumerator
    refine ⟨mark', .cons ?_ hrest⟩
    simp only [Reader.next, if_pos (hdigits c List.mem_cons_self), hten, hnext]
    rfl

/-- Whole seconds up to their unit. -/
theorem reads_second (hne : cs ≠ []) (hdigits : ∀ c ∈ cs, c.isDigit = true)
    (hfits : Nat.ofDigitChars 10 cs 0 < 0x10000000000000000) :
    Reads start (cs ++ ['s']) zero (.unit (Nat.ofDigitChars 10 cs 0) none ['s']) :=
  (reads_whole hne hdigits hfits).append fun _ => .cons rfl .nil

/-- Seconds with decimal places up to their unit. -/
theorem reads_decimal {places : List Char} (hne : cs ≠ []) (hdigits : ∀ c ∈ cs, c.isDigit = true)
    (hfits : Nat.ofDigitChars 10 cs 0 < 0x10000000000000000) (hsome : places ≠ [])
    (hplaces : ∀ c ∈ places, c.isDigit = true) (hcount : places.length ≤ 9) :
    Reads start (cs ++ '.' :: (places ++ ['s'])) zero (.unit (Nat.ofDigitChars 10 cs 0)
      (some ⟨Nat.ofDigitChars 10 places 0, 10 ^ places.length⟩) ['s']) := by
  have hpower : 10 ^ places.length ≤ 10 ^ 9 := Nat.pow_le_pow_right (by decide) hcount
  have hnumerator := Text.ofDigitChars_lt hplaces
  have hten : 10 ^ places.length ≠ 1 :=
    Nat.ne_of_gt (Nat.one_lt_pow (mt List.length_eq_zero_iff.1 hsome) (by decide))
  refine (reads_whole hne hdigits hfits).append fun offset => .cons rfl ?_
  have hread : ∃ mark', Reads
      ⟨zero, offset + 1, .fraction (Nat.ofDigitChars 10 cs 0) ⟨0, 1⟩ offset⟩ places zero
      (.fraction (Nat.ofDigitChars 10 cs 0)
        ⟨Nat.ofDigitChars 10 places 0, 1 * 10 ^ places.length⟩ mark') :=
    reads_places (offset + 1) offset hplaces (by dsimp only; omega) (by dsimp only; omega)
  obtain ⟨mark, hread⟩ := hread
  rw [Nat.one_mul] at hread
  refine hread.append fun last => .cons ?_ .nil
  simp only [Reader.next]
  have hletter : (isUnitLetter 's' && decide (10 ^ places.length ≠ 1)) = true :=
    Bool.and_eq_true_iff.2 ⟨rfl, decide_eq_true hten⟩
  rw [if_neg (by decide), if_neg (by decide), if_pos hletter]
  rfl

end Reader

/-- A sum that does not come to another second. -/
theorem add_of_lt {total : Duration} {secs nanos : Nat}
    (hsecs : total.secs + secs < 0x10000000000000000) (hnanos : total.nanos + nanos < 1000000000) :
    total.add secs nanos = .ok ⟨total.secs + secs, total.nanos + nanos, hsecs, hnanos⟩ := by
  have hfits : fitting (total.nanos + nanos) = .ok (total.nanos + nanos) := if_pos (by omega)
  have hsum : fitting (total.secs + secs) = .ok (total.secs + secs) := if_pos hsecs
  have hdiv : (total.nanos + nanos) / 1000000000 = 0 := Nat.div_eq_of_lt hnanos
  have hmod : (total.nanos + nanos) % 1000000000 = total.nanos + nanos := Nat.mod_eq_of_lt hnanos
  refine bind_eq_ok.2 ⟨_, hfits, ?_⟩
  rw [if_neg (by omega)]
  refine bind_eq_ok.2 ⟨_, rfl, bind_eq_ok.2 ⟨_, hsum, mapError_eq_ok.2 ?_⟩⟩
  simp only [ofParts, hdiv, hmod, Nat.add_zero]
  exact dif_pos hsecs

theorem addLength_seconds {d : Duration} :
    zero.addLength (.seconds d.secs) = .ok ⟨d.secs, 0, d.secs_lt, by decide⟩ := by
  have hsecs : zero.secs + d.secs < 0x10000000000000000 := by
    simpa only [zero, Nat.zero_add] using d.secs_lt
  rw [addLength, add_of_lt hsecs (by decide)]
  simp only [zero, Nat.zero_add]

theorem addLength_nanoseconds {d : Duration} :
    (⟨d.secs, 0, d.secs_lt, by decide⟩ : Duration).addLength (.nanoseconds d.nanos) = .ok d := by
  rw [addLength, add_of_lt (by simpa using d.secs_lt) (by simpa using d.nanos_lt)]
  simp only [Nat.add_zero, Nat.zero_add]

theorem wholeUnits_second (d : Duration) :
    wholeUnits d.secs TimeUnit.second.length = .ok (.seconds d.secs) := by
  rw [TimeUnit.length, wholeUnits, map_eq_ok]
  exact ⟨d.secs, by rw [Nat.mul_one]; exact if_pos d.secs_lt, rfl⟩

/-- Whole seconds, counted from nothing. -/
theorem addPart_whole {d : Duration} (hnone : d.nanos = 0) :
    zero.addPart d.secs none "s" = .ok d := by
  have hs : TimeUnit.ofName? "s" = some .second := by decide
  unfold addPart
  rw [hs]
  refine bind_eq_ok.2 ⟨_, wholeUnits_second d, bind_eq_ok.2 ⟨_, addLength_seconds, ?_⟩⟩
  rcases d with ⟨secs, nanos, hsecs, hnanos⟩
  obtain rfl : nanos = 0 := hnone
  rfl

/-- Up to nine decimal places of a second come out even. -/
theorem partUnits_second {d : Duration} {numerator count : Nat} (hcount : count ≤ 9)
    (hexact : numerator * 10 ^ (9 - count) = d.nanos) :
    partUnits ⟨numerator, 10 ^ count⟩ (.nanoseconds 1000000000) = .ok (.nanoseconds d.nanos) := by
  have hnanos := d.nanos_lt
  have hproduct : numerator * 1000000000 = d.nanos * 10 ^ count := by
    rw [← hexact, Nat.mul_assoc, ← Nat.pow_add, Nat.sub_add_cancel hcount]
  have hle : numerator ≤ d.nanos :=
    hexact ▸ Nat.le_mul_of_pos_right _ (Nat.pow_pos (by decide))
  rw [partUnits, map_eq_ok]
  refine ⟨d.nanos, bind_eq_ok.2 ⟨_, if_pos (by dsimp only; omega), ?_⟩, rfl⟩
  dsimp only
  rw [hproduct, if_pos (Nat.mul_mod_left _ _), Nat.mul_div_cancel _ (Nat.pow_pos (by decide))]
  rfl

/-- Seconds and decimal places, counted from nothing. -/
theorem addPart_places {d : Duration} {numerator count : Nat} (hcount : count ≤ 9)
    (hexact : numerator * 10 ^ (9 - count) = d.nanos) :
    zero.addPart d.secs (some ⟨numerator, 10 ^ count⟩) "s" = .ok d := by
  have hs : TimeUnit.ofName? "s" = some .second := by decide
  unfold addPart
  rw [hs]
  refine bind_eq_ok.2 ⟨_, wholeUnits_second d, bind_eq_ok.2 ⟨_, addLength_seconds, ?_⟩⟩
  exact bind_eq_ok.2 ⟨_, partUnits_second hcount hexact, addLength_nanoseconds⟩

/-- A text that the reader goes through up to a number of seconds. -/
theorem parseChars_of_reads {d : Duration} {cs : List Char} {f : Option Fraction}
    (hread : Reader.Reads Reader.start (cs ++ ['s']) zero (.unit d.secs f ['s']))
    (hpart : zero.addPart d.secs f "s" = .ok d) : parseChars (cs ++ ['s']) = .ok d := by
  have hzero : cs ++ ['s'] ≠ ['0'] := by
    intro h
    have hlast := congrArg List.getLast? h
    simp at hlast
  obtain ⟨offset, hfold⟩ := hread
  rw [parseChars, if_neg hzero]
  exact bind_eq_ok.2 ⟨_, hfold, hpart⟩

/-- Seconds as a decimal number are read as the span that they denote. -/
theorem parseChars_decimal {d : Duration} {whole places : List Char} (hne : whole ≠ [])
    (hwhole : ∀ c ∈ whole, c.isDigit = true) (hsecs : Nat.ofDigitChars 10 whole 0 = d.secs)
    (hplaces : ∀ c ∈ places, c.isDigit = true) (hcount : places.length ≤ 9)
    (hexact : Nat.ofDigitChars 10 places 0 * 10 ^ (9 - places.length) = d.nanos) :
    parseChars (whole ++ pointed places ++ ['s']) = .ok d := by
  have hfits : Nat.ofDigitChars 10 whole 0 < 0x10000000000000000 := hsecs ▸ d.secs_lt
  by_cases hnone : places = []
  · have hread := Reader.reads_second hne hwhole hfits
    subst hnone
    rw [hsecs] at hread
    rw [pointed, List.append_nil]
    exact parseChars_of_reads hread (addPart_whole (by simpa using hexact.symm))
  · have hread := Reader.reads_decimal hne hwhole hfits hnone hplaces hcount
    rw [hsecs, ← List.cons_append, ← List.append_assoc, ← pointed_of_ne_nil hnone] at hread
    exact parseChars_of_reads hread (addPart_places hcount hexact)

section Written

variable {d e : Duration}

/-- Places that are exact leave out none but zeros. -/
theorem Tells.dvd {places : List Char} (h : d.Tells places) :
    10 ^ (9 - places.length) ∣ d.nanos :=
  ⟨_, (h.exact.symm.trans (Nat.mul_comm _ _))⟩

theorem Tells.length_cases {places : List Char} (h : d.Tells places) :
    places.length = 0 ∨ places.length = 3 ∨ places.length = 6 ∨ places.length = 9 := by
  simpa using h.count

/-- With three places fewer the nanoseconds would be a multiple of a higher power of ten. -/
theorem Tells.le_length {others : List Char} (h : d.Tells others) {width : Nat}
    (hwidth : width ∈ [3, 6, 9]) (hnot : ¬10 ^ (12 - width) ∣ d.nanos) :
    width ≤ others.length := by
  have hwidths : width = 3 ∨ width = 6 ∨ width = 9 := by simpa using hwidth
  have hcounts := h.length_cases
  by_contra hless
  exact hnot (Nat.dvd_trans (Nat.pow_dvd_pow 10 (by omega)) h.dvd)

theorem length_paddedDigits_of_exact {width n : Nat} (hwidth : width ∈ [3, 6, 9])
    (hexact : n * 10 ^ (9 - width) = d.nanos) :
    (Text.paddedDigits 10 width n).length = width := by
  have hnanos := d.nanos_lt
  have hwidths : width = 3 ∨ width = 6 ∨ width = 9 := by simpa using hwidth
  refine Text.length_paddedDigits (by omega) ?_
  refine Nat.lt_of_mul_lt_mul_right (a := 10 ^ (9 - width)) ?_
  rw [← Nat.pow_add, Nat.add_sub_cancel' (by omega), hexact]
  exact hnanos

/-- A span that is written with places, of which three fewer would not do. -/
theorem isWritten_paddedDigits {width n : Nat} (hwidth : width ∈ [3, 6, 9])
    (hexact : n * 10 ^ (9 - width) = d.nanos) (hnot : ¬10 ^ (12 - width) ∣ d.nanos) :
    d.IsWritten (String.ofList
      (digits d.secs ++ '.' :: Text.paddedDigits 10 width n ++ ['s'])) := by
  have hlength := length_paddedDigits_of_exact hwidth hexact
  have hsome : Text.paddedDigits 10 width n ≠ [] := by
    intro hnil
    rw [hnil] at hlength
    subst hlength
    exact absurd hwidth (by decide)
  refine ⟨_, by rw [pointed_of_ne_nil hsome, digits], ?_, fun others hothers => ?_⟩
  · refine ⟨fun _ => Text.isDigit_of_mem_paddedDigits, ?_, ?_⟩
    · rw [hlength]
      exact List.mem_cons_of_mem 0 hwidth
    · rw [hlength, Text.ofDigitChars_paddedDigits]
      exact hexact
  · rw [hlength]
    exact hothers.le_length hwidth hnot

/-- What is written for a span has the fewest places that are exact. -/
theorem isWritten_protoText (d : Duration) : d.IsWritten d.protoText := by
  have hnanos := d.nanos_lt
  unfold protoText protoChars
  dsimp only
  split
  · rename_i hnone
    refine ⟨[], rfl, ⟨by simp, by decide, by simpa using hnone.symm⟩, fun _ _ => Nat.zero_le _⟩
  split
  · exact isWritten_paddedDigits (by decide) (by omega) (by omega)
  split
  · exact isWritten_paddedDigits (by decide) (by omega) (by omega)
  · exact isWritten_paddedDigits (by decide) (by omega) (by omega)

/-- A text without blanks is read from its first character to its last. -/
theorem parse_ofList {cs : List Char} (h : ∀ c ∈ cs, Text.isBlank c = false) :
    parse (String.ofList cs) = parseChars cs := by
  rw [parse, String.toList_ofList, Text.trimChars_eq_self h]

theorem not_isBlank_of_mem_pointed {places : List Char} (h : ∀ c ∈ places, c.isDigit = true)
    {c : Char} (hc : c ∈ pointed places) : Text.isBlank c = false := by
  cases places with
  | nil => cases hc
  | cons first rest =>
    rcases List.mem_cons.1 hc with rfl | hc
    · decide
    · exact Text.not_isBlank_of_isDigit (h c hc)

/-- What is written for a span is read as that span. -/
theorem parse_of_isWritten {text : String} (h : d.IsWritten text) : parse text = .ok d := by
  obtain ⟨places, rfl, htells, -⟩ := h
  have hcount := htells.length_cases
  rw [parse_ofList]
  · exact parseChars_decimal (digits_ne_nil d.secs) (fun _ => isDigit_of_mem_digits)
      Nat.ofDigitChars_ten_toDigits htells.isDigit_of_mem (by omega) htells.exact
  · intro c hc
    rcases List.mem_append.1 hc with hc | hc
    · rcases List.mem_append.1 hc with hc | hc
      · exact Text.not_isBlank_of_isDigit (isDigit_of_mem_digits hc)
      · exact not_isBlank_of_mem_pointed htells.isDigit_of_mem hc
    · obtain rfl := List.mem_singleton.1 hc
      decide

theorem parse_protoText (d : Duration) : parse d.protoText = .ok d :=
  parse_of_isWritten (isWritten_protoText d)

/-- Different spans are written differently. -/
theorem protoText_inj : d.protoText = e.protoText ↔ d = e := by
  constructor
  · intro h
    have hparse := parse_protoText d
    rw [h, parse_protoText e] at hparse
    exact (Except.ok.inj hparse).symm
  · exact congrArg protoText

end Written

theorem protoDuration_eq_some_iff {text rendered : String} :
    protoDuration text = .ok (some rendered) ↔
      ∃ d, parse text = .ok d ∧ rendered = d.protoText := by
  unfold protoDuration
  cases h : parse text with
  | ok d => simp [eq_comm]
  | error e => cases e <;> simp

/-- Nothing is lost when a span is written: its text has the form that spans are written in, and
the reader takes it back to the span. So a text that has been rendered is rendered as itself, and
two texts are rendered alike just if they are read as the same span. -/
theorem protoText_lossless :
    (∀ d : Duration, d.IsWritten d.protoText ∧ parse d.protoText = .ok d) ∧
    (∀ text rendered, protoDuration text = .ok (some rendered) →
      protoDuration rendered = .ok (some rendered)) ∧
    ∀ text other rendered rendered', protoDuration text = .ok (some rendered) →
      protoDuration other = .ok (some rendered') →
      (rendered = rendered' ↔ ∃ d, parse text = .ok d ∧ parse other = .ok d) := by
  refine ⟨fun d => ⟨isWritten_protoText d, parse_protoText d⟩, ?_, ?_⟩
  · intro text rendered h
    obtain ⟨d, -, rfl⟩ := protoDuration_eq_some_iff.1 h
    exact protoDuration_eq_some_iff.2 ⟨d, parse_protoText d, rfl⟩
  · intro text other rendered rendered' h h'
    obtain ⟨d, hd, rfl⟩ := protoDuration_eq_some_iff.1 h
    obtain ⟨e, he, rfl⟩ := protoDuration_eq_some_iff.1 h'
    rw [protoText_inj, hd, he]
    constructor
    · rintro rfl
      exact ⟨d, rfl, rfl⟩
    · rintro ⟨both, hboth, hboth'⟩
      exact (Except.ok.inj hboth).trans (Except.ok.inj hboth').symm

/-- The last second of the clock, written in two ways. -/
theorem protoText_lossless_example :
    protoDuration "18446744073709551615.000005s" =
        .ok (some "18446744073709551615.000005s") ∧
      ∃ d, parse " 18446744073709551615s 5us " = .ok d ∧
        parse "307445734561825860min15s 5000 ns" = .ok d := by
  have h : protoDuration " 18446744073709551615s 5us " =
      .ok (some "18446744073709551615.000005s") := by decide +kernel
  have h' : protoDuration "307445734561825860min15s 5000 ns" =
      .ok (some "18446744073709551615.000005s") := by decide +kernel
  obtain ⟨-, hagain, halike⟩ := protoText_lossless
  exact ⟨hagain _ _ h, (halike _ _ _ _ h h').1 rfl⟩

end Duration

end CompositeApps
