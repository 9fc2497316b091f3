import Mathlib.Algebra.Ring.Nat
import CompositeApps.Time.DurationParser

/-!
Spans in the written form of protocol messages, read back as decimal numbers of seconds. What is
written for a span denotes the same number of nanoseconds.
-/

namespace CompositeApps

namespace Text

theorem length_paddedDigits {width n : Nat} (hwidth : 0 < width) (h : n < 10 ^ width) :
    (paddedDigits 10 width n).length = width := by
  have hlength := (Nat.length_toDigits_le_iff (by decide) hwidth).2 h
  simp only [paddedDigits, List.length_append, List.length_replicate]
  omega

theorem isDigit_of_mem_paddedDigits {width n : Nat} {c : Char}
    (h : c ∈ paddedDigits 10 width n) : c.isDigit = true := by
  rcases List.mem_append.1 h with h | h
  · rw [List.eq_of_mem_replicate h]
    decide
  · exact Nat.isDigit_of_mem_toDigits (by decide) (by decide) h

/-- Leading zeros do not count. -/
theorem ofDigitChars_paddedDigits (width n : Nat) :
    Nat.ofDigitChars 10 (paddedDigits 10 width n) 0 = n := by
  unfold paddedDigits
  dsimp only
  generalize width - (Nat.toDigits 10 n).length = zeros
  induction zeros with
  | zero => exact Nat.ofDigitChars_ten_toDigits
  | succ zeros ih =>
    rw [List.replicate_succ, List.cons_append]
    exact ih

end Text

namespace Duration

/-- The nanoseconds that a text denotes: seconds as a decimal number with up to nine places, and an
`s`. -/
def decimalNanos? (text : String) : Option Nat :=
  let whole := text.toList.takeWhile Char.isDigit
  if whole = [] then none
  else match text.toList.dropWhile Char.isDigit with
    | ['s'] => some (Nat.ofDigitChars 10 whole 0 * 1000000000)
    | '.' :: rest =>
      let places := rest.takeWhile Char.isDigit
      if places ≠ [] ∧ places.length ≤ 9 ∧ rest.dropWhile Char.isDigit = ['s'] then
        some (Nat.ofDigitChars 10 whole 0 * 1000000000 +
          Nat.ofDigitChars 10 places 0 * 10 ^ (9 - places.length))
      else none
    | _ => none

/-- Digits end where the first other character stands. -/
theorem takeWhile_dropWhile_digits {digits : List Char} {c : Char} (rest : List Char)
    (hdigits : ∀ d ∈ digits, d.isDigit = true) (hc : c.isDigit = false) :
    (digits ++ c :: rest).takeWhile Char.isDigit = digits ∧
      (digits ++ c :: rest).dropWhile Char.isDigit = c :: rest := by
  rw [List.takeWhile_append_of_pos hdigits, List.dropWhile_append_of_pos hdigits]
  simp [hc]

theorem decimalNanos?_whole {whole : List Char} (hne : whole ≠ [])
    (hdigits : ∀ c ∈ whole, c.isDigit = true) :
    decimalNanos? (String.ofList (whole ++ ['s'])) =
      some (Nat.ofDigitChars 10 whole 0 * 1000000000) := by
  obtain ⟨htake, hdrop⟩ := takeWhile_dropWhile_digits (c := 's') [] hdigits (by decide)
  simp only [decimalNanos?, String.toList_ofList, htake, hdrop, if_neg hne]

theorem decimalNanos?_places {whole places : List Char} (hne : whole ≠ [])
    (hdigits : ∀ c ∈ whole, c.isDigit = true) (hsome : places ≠ []) (hmany : places.length ≤ 9)
    (hplaces : ∀ c ∈ places, c.isDigit = true) :
    decimalNanos? (String.ofList (whole ++ '.' :: (places ++ ['s']))) =
      some (Nat.ofDigitChars 10 whole 0 * 1000000000 +
        Nat.ofDigitChars 10 places 0 * 10 ^ (9 - places.length)) := by
  obtain ⟨htake, hdrop⟩ :=
    takeWhile_dropWhile_digits (c := '.') (places ++ ['s']) hdigits (by decide)
  obtain ⟨htake', hdrop'⟩ :=
    takeWhile_dropWhile_digits (c := 's') [] hplaces (by decide)
  simp only [decimalNanos?, String.toList_ofList, htake, hdrop, if_neg hne, htake', hdrop']
  rw [if_pos ⟨hsome, hmany, trivial⟩]

theorem digits_ne_nil (n : Nat) : digits n ≠ [] :=
  Nat.toDigits_ne_nil

theorem isDigit_of_mem_digits {n : Nat} {c : Char} (h : c ∈ digits n) : c.isDigit = true :=
  Nat.isDigit_of_mem_toDigits (by decide) (by decide) h

/-- A span that is written with some decimal places, of which none is left out. -/
theorem decimalNanos?_padded {width n : Nat} (hwidth : 0 < width) (hle : width ≤ 9)
    (hn : n < 10 ^ width) (secs : Nat) :
    decimalNanos? (String.ofList (digits secs ++ '.' :: Text.paddedDigits 10 width n ++ ['s'])) =
      some (secs * 1000000000 + n * 10 ^ (9 - width)) := by
  have hlength := Text.length_paddedDigits hwidth hn
  have hsome : Text.paddedDigits 10 width n ≠ [] := by
    intro hnil
    rw [hnil, List.length_nil] at hlength
    omega
  rw [List.append_assoc, List.cons_append, decimalNanos?_places (digits_ne_nil secs)
    (fun _ => isDigit_of_mem_digits) hsome (by omega) (fun _ => Text.isDigit_of_mem_paddedDigits),
    hlength, Text.ofDigitChars_paddedDigits]
  rw [digits, Nat.ofDigitChars_ten_toDigits]

/-- What is written for a span denotes it. -/
theorem decimalNanos?_protoText (d : Duration) : decimalNanos? d.protoText = some d.totalNanos := by
  have hnanos := d.nanos_lt
  unfold protoText protoChars totalNanos
  dsimp only
  split
  · rename_i hnone
    rw [List.append_nil, decimalNanos?_whole (digits_ne_nil _) fun _ => isDigit_of_mem_digits,
      digits, Nat.ofDigitChars_ten_toDigits, hnone, Nat.add_zero]
  split
  · rename_i hmillis
    rw [decimalNanos?_padded (by decide) (by decide) (by omega)]
    congr 1
    omega
  split
  · rename_i hmicros
    rw [decimalNanos?_padded (by decide) (by decide) (by omega)]
    congr 1
    omega
  · rw [decimalNanos?_padded (by decide) (by decide) (by omega)]
    congr 1
    omega

def Renders (written rendered : String) : Prop :=
  ∃ d, parse written = .ok d ∧ decimalNanos? rendered = some d.totalNanos

/-- A text that can be read is rendered as the same span. -/
theorem exists_renders {text : String} (h : ∃ d, parse text = .ok d) :
    ∃ rendered, protoDuration text = .ok (some rendered) ∧ Renders text rendered := by
  obtain ⟨d, hd⟩ := h
  exact ⟨d.protoText, by simp [protoDuration, hd], d, hd, decimalNanos?_protoText d⟩

end Duration

end CompositeApps
