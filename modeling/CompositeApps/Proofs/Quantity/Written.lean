import Mathlib.Algebra.Order.Field.Rat
import Mathlib.Data.Rat.Floor
import Mathlib.Tactic.FieldSimp
import Mathlib.Tactic.Ring
import CompositeApps.Quantity

/-!
How amounts are written, and which numbers they stand for. A text has a value just if it is written
in this way and no number on the way to the value is too large; the value is then the number that
the text stands for, in billionths and truncated toward zero.
-/

namespace CompositeApps.Quantity

inductive Sign where
  | missing
  | plus
  | minus
  deriving DecidableEq, Repr

namespace Sign

def chars : Sign → List Char
  | missing => []
  | plus => ['+']
  | minus => ['-']

def factor : Sign → Int
  | minus => -1
  | missing | plus => 1

end Sign

def number (digits : List Char) : Nat :=
  Nat.ofDigitChars 10 digits 0

def decimalSuffixes : List (List Char × Int) := [
  ([], 0), (['n'], -9), (['u'], -6), (['m'], -3), (['k'], 3), (['M'], 6), (['G'], 9), (['T'], 12),
  (['P'], 15), (['E'], 18)]

def binarySuffixes : List (List Char × Nat) := [
  (['K', 'i'], 10), (['M', 'i'], 20), (['G', 'i'], 30), (['T', 'i'], 40), (['P', 'i'], 50),
  (['E', 'i'], 60)]

/-- The power of a base by which a suffix multiplies. Behind an `e` stands the exponent of a power
of ten, as a decimal number that can be held in 32 bits with a sign. -/
inductive IsSuffix : List Char → Nat → Int → Prop where
  | decimal {suffix : List Char} {power : Int} (h : (suffix, power) ∈ decimalSuffixes) :
      IsSuffix suffix 10 power
  | binary {suffix : List Char} {power : Nat} (h : (suffix, power) ∈ binarySuffixes) :
      IsSuffix suffix 2 power
  | exponent {letter : Char} {sign : Sign} {digits : List Char}
      (hletter : letter = 'e' ∨ letter = 'E') (hsome : digits ≠ [])
      (hdigits : ∀ c ∈ digits, c.isDigit = true) (hlow : -2 ^ 31 ≤ sign.factor * number digits)
      (hhigh : sign.factor * number digits < 2 ^ 31) :
      IsSuffix (letter :: (sign.chars ++ digits)) 10 (sign.factor * number digits)

def pointed : Option (List Char) → List Char
  | none => []
  | some places => '.' :: places

/-- An amount as it is written: a sign, digits of which some may stand behind a point, and a
suffix. -/
structure Written where
  sign : Sign
  whole : List Char
  /-- What stands behind the point, if there is one. -/
  fraction : Option (List Char)
  suffix : List Char
  base : Nat
  power : Int
  isDigit_of_mem : ∀ c ∈ whole ++ fraction.getD [], c.isDigit = true
  digits_ne_nil : whole ++ fraction.getD [] ≠ []
  isSuffix : IsSuffix suffix base power

namespace Written

variable (w : Written)

def places : List Char :=
  w.fraction.getD []

def digits : List Char :=
  w.whole ++ w.places

def point : List Char :=
  pointed w.fraction

def chars : List Char :=
  w.sign.chars ++ (w.whole ++ w.point) ++ w.suffix

def value : ℚ :=
  w.sign.factor * (number w.whole + number w.places / 10 ^ w.places.length) *
    (w.base : ℚ) ^ w.power

def multiplier : Nat :=
  w.base ^ w.power.toNat

def divisor : Nat :=
  w.base ^ (-w.power).toNat

/-- No number on the way to the value is too large for 128 bits with a sign. -/
structure Fits : Prop where
  mantissa : number w.digits < 2 ^ 127
  power : w.base ^ w.power.natAbs < 2 ^ 127
  numerator : number w.digits * 10 ^ 9 * w.multiplier < 2 ^ 127
  denominator : 10 ^ w.places.length * w.divisor < 2 ^ 127

end Written

def truncated (q : ℚ) : ℤ :=
  if 0 ≤ q then ⌊q⌋ else ⌈q⌉

theorem truncated_neg (q : ℚ) : truncated (-q) = -truncated q := by
  rcases lt_trichotomy q 0 with hneg | rfl | hpos
  · have hle : 0 ≤ -q := by linarith
    rw [truncated, truncated, if_pos hle, if_neg (not_le.2 hneg), Int.floor_neg]
  · rfl
  · have hlt : ¬ 0 ≤ -q := by linarith
    rw [truncated, truncated, if_neg hlt, if_pos hpos.le, Int.ceil_neg]

theorem truncated_natCast_div (n d : Nat) : truncated ((n : ℚ) / d) = (n / d : Nat) := by
  have hnonneg : (0 : ℚ) ≤ (n : ℚ) / d := by positivity
  rw [truncated, if_pos hnonneg, Rat.floor_natCast_div_natCast]
  rfl

theorem Sign.truncated_factor_mul (sign : Sign) (n d : Nat) :
    truncated (sign.factor * ((n : ℚ) / d)) = sign.factor * (n / d : Nat) := by
  cases sign with
  | minus =>
    rw [factor, Int.cast_neg, Int.cast_one, neg_one_mul, truncated_neg, truncated_natCast_div,
      neg_one_mul]
  | missing | plus =>
    rw [factor, Int.cast_one, one_mul, truncated_natCast_div, one_mul]

/-! ### Digits -/

theorem number_append (a b : List Char) :
    number (a ++ b) = 10 ^ b.length * number a + number b := by
  rw [number, Nat.ofDigitChars_append, Nat.ofDigitChars_eq_ofDigitChars_zero]
  rfl

theorem Written.numerals_eq (w : Written) :
    (number w.whole + number w.places / 10 ^ w.places.length : ℚ) =
      number w.digits / 10 ^ w.places.length := by
  have hpos : (10 : ℚ) ^ w.places.length ≠ 0 := by positivity
  rw [digits, number_append]
  push_cast
  field_simp

/-! ### Suffixes -/

theorem bound_eq : bound = 2 ^ 127 := by
  decide

theorem powerOfTen?_eq_some_iff {n power : Nat} :
    powerOfTen? n = some power ↔ 10 ^ n < 2 ^ 127 ∧ power = 10 ^ n := by
  -- 38 is the largest exponent below the bound
  have hsmall : n ≤ 38 ↔ 10 ^ n < 2 ^ 127 := by
    constructor
    · intro hn
      exact (Nat.pow_le_pow_right (by decide) hn).trans_lt (by decide)
    · intro hlt
      by_contra hn
      have hle : 10 ^ 39 ≤ 10 ^ n := Nat.pow_le_pow_right (by decide) (by omega)
      exact absurd (hle.trans_lt hlt) (by decide)
  rw [powerOfTen?, Option.ite_none_right_eq_some, Option.some.injEq, hsmall]
  exact and_congr_right fun _ => eq_comm

theorem fitting?_eq_some_iff {n m : Nat} : fitting? n = some m ↔ n < 2 ^ 127 ∧ m = n := by
  rw [fitting?, bound_eq, Option.ite_none_right_eq_some, Option.some.injEq, eq_comm]

theorem Scale.decimal?_eq_some_iff {power : Int} {scale : Scale} :
    Scale.decimal? power = some scale ↔
      10 ^ power.natAbs < 2 ^ 127 ∧ scale = ⟨10 ^ power.toNat, 10 ^ (-power).toNat⟩ := by
  have hscale : (if 0 ≤ power then ⟨10 ^ power.natAbs, 1⟩ else ⟨1, 10 ^ power.natAbs⟩ : Scale) =
      ⟨10 ^ power.toNat, 10 ^ (-power).toNat⟩ := by
    split
    · have habs : power.natAbs = power.toNat := by omega
      have hzero : (-power).toNat = 0 := by omega
      rw [habs, hzero, pow_zero]
    · have habs : power.natAbs = (-power).toNat := by omega
      have hzero : power.toNat = 0 := by omega
      rw [habs, hzero, pow_zero]
  simp only [Scale.decimal?, Option.bind_eq_bind, Option.bind_eq_some_iff, powerOfTen?_eq_some_iff,
    Option.pure_def, Option.some.injEq]
  constructor
  · rintro ⟨_, ⟨hlt, rfl⟩, rfl⟩
    exact ⟨hlt, hscale⟩
  · rintro ⟨hlt, rfl⟩
    exact ⟨_, ⟨hlt, rfl⟩, hscale⟩

def splitSign : List Char → Sign × List Char
  | '-' :: cs => (.minus, cs)
  | '+' :: cs => (.plus, cs)
  | cs => (.missing, cs)

theorem chars_splitSign (cs : List Char) : (splitSign cs).1.chars ++ (splitSign cs).2 = cs := by
  unfold splitSign
  split <;> rfl

theorem splitSign_append (sign : Sign) {cs : List Char} (hcs : ∀ c ∈ cs, c ≠ '+' ∧ c ≠ '-') :
    splitSign (sign.chars ++ cs) = (sign, cs) := by
  cases sign with
  | minus | plus => rfl
  | missing =>
    rw [Sign.chars, List.nil_append, splitSign]
    · rintro rest rfl
      exact (hcs _ List.mem_cons_self).2 rfl
    · rintro rest rfl
      exact (hcs _ List.mem_cons_self).1 rfl

theorem ne_sign_of_isDigit {c : Char} (h : c.isDigit = true) : c ≠ '+' ∧ c ≠ '-' := by
  constructor
  · rintro rfl
    exact absurd h (by decide)
  · rintro rfl
    exact absurd h (by decide)

theorem Scale.exponent?_eq_some_iff {cs : List Char} {i : Int} :
    Scale.exponent? cs = some i ↔ (splitSign cs).2 ≠ [] ∧
      (∀ c ∈ (splitSign cs).2, c.isDigit = true) ∧ -2 ^ 31 ≤ i ∧ i < 2 ^ 31 ∧
      i = (splitSign cs).1.factor * number (splitSign cs).2 := by
  have heq : Scale.exponent? cs =
      if (splitSign cs).2 ≠ [] && (splitSign cs).2.all Char.isDigit then
        let i : Int := (splitSign cs).1.factor * number (splitSign cs).2
        if -0x80000000 ≤ i && i < 0x80000000 then some i else none
      else none := by
    fun_cases splitSign cs with
    | case1 cs => simp [Scale.exponent?, Sign.factor, number]
    | case2 cs => simp [Scale.exponent?, Sign.factor, number]
    | case3 cs hminus hplus => simp [Scale.exponent?, Sign.factor, number]
  rw [heq, Option.ite_none_right_eq_some, Bool.and_eq_true, decide_eq_true_eq, List.all_eq_true]
  simp only [Option.ite_none_right_eq_some, Bool.and_eq_true, decide_eq_true_eq, Option.some.injEq]
  constructor
  · rintro ⟨⟨hsome, hdigits⟩, ⟨hlow, hhigh⟩, rfl⟩
    exact ⟨hsome, hdigits, hlow, hhigh, rfl⟩
  · rintro ⟨hsome, hdigits, hlow, hhigh, rfl⟩
    exact ⟨⟨hsome, hdigits⟩, ⟨hlow, hhigh⟩, rfl⟩

namespace Scale

theorem ofSuffix?_of_mem_decimalSuffixes {suffix : List Char} {power : Int}
    (h : (suffix, power) ∈ decimalSuffixes) : ofSuffix? suffix = decimal? power := by
  have hall : ∀ entry ∈ decimalSuffixes, ofSuffix? entry.1 = decimal? entry.2 := by decide
  exact hall _ h

theorem ofSuffix?_of_mem_binarySuffixes {suffix : List Char} {power : Nat}
    (h : (suffix, power) ∈ binarySuffixes) : ofSuffix? suffix = some (binary power) := by
  have hall : ∀ entry ∈ binarySuffixes, ofSuffix? entry.1 = some (binary entry.2) := by decide
  exact hall _ h

/-- Behind an `e` stands a power of ten, unless the suffix is one of those with a name. -/
theorem ofSuffix?_exponent {letter : Char} {cs : List Char} (hletter : letter = 'e' ∨ letter = 'E')
    (hne : cs ≠ []) (hbinary : cs ≠ ['i']) :
    ofSuffix? (letter :: cs) = (exponent? cs).bind decimal? := by
  obtain rfl | rfl := hletter
  · rw [ofSuffix?]
  · rw [ofSuffix?]
    · exact hne
    · exact hbinary

theorem ofSuffix?_of_isSuffix {suffix : List Char} {base : Nat} {power : Int} {scale : Scale}
    (h : IsSuffix suffix base power) : ofSuffix? suffix = some scale ↔
      base ^ power.natAbs < 2 ^ 127 ∧ scale = ⟨base ^ power.toNat, base ^ (-power).toNat⟩ := by
  cases h with
  | decimal h => rw [ofSuffix?_of_mem_decimalSuffixes h, decimal?_eq_some_iff]
  | @binary suffix power h =>
    have hlt : ∀ entry ∈ binarySuffixes, 2 ^ entry.2 < 2 ^ 127 := by decide
    have hzero : (-(power : Int)).toNat = 0 := by omega
    rw [ofSuffix?_of_mem_binarySuffixes h, Int.natAbs_natCast, Int.toNat_natCast, hzero, pow_zero,
      Option.some.injEq, eq_comm]
    exact (and_iff_right (hlt _ h)).symm
  | @exponent letter sign digits hletter hsome hdigits hlow hhigh =>
    have hexponent : exponent? (sign.chars ++ digits) = some (sign.factor * number digits) := by
      rw [exponent?_eq_some_iff,
        splitSign_append sign fun c hc => ne_sign_of_isDigit (hdigits c hc)]
      exact ⟨hsome, hdigits, hlow, hhigh, rfl⟩
    have hne : ∀ cs, exponent? cs = none → sign.chars ++ digits ≠ cs := by
      rintro _ hnone rfl
      rw [hexponent] at hnone
      cases hnone
    rw [ofSuffix?_exponent hletter (hne [] rfl) (hne ['i'] rfl), hexponent, Option.bind_some,
      decimal?_eq_some_iff]

theorem exists_isSuffix {suffix : List Char} {scale : Scale}
    (h : ofSuffix? suffix = some scale) : ∃ base power, IsSuffix suffix base power := by
  have hexponent : ∀ {letter : Char} {cs : List Char}, letter = 'e' ∨ letter = 'E' →
      (exponent? cs).bind decimal? = some scale →
      ∃ base power, IsSuffix (letter :: cs) base power := by
    intro letter cs hletter h
    obtain ⟨i, hi, -⟩ := Option.bind_eq_some_iff.1 h
    obtain ⟨hsome, hdigits, hlow, hhigh, rfl⟩ := exponent?_eq_some_iff.1 hi
    rw [← chars_splitSign cs]
    exact ⟨_, _, .exponent hletter hsome hdigits hlow hhigh⟩
  fun_cases ofSuffix? suffix with
  | case1 | case2 | case3 | case4 | case5 | case6 | case7 | case8 | case9 | case10 =>
    exact ⟨_, _, .decimal (by simp [decimalSuffixes]; rfl)⟩
  | case11 | case12 | case13 | case14 | case15 | case16 =>
    exact ⟨_, _, .binary (by simp [binarySuffixes]; rfl)⟩
  | case17 cs => exact hexponent (.inl rfl) h
  | case18 cs hne hbinary =>
    rw [ofSuffix?_exponent (.inr rfl) hne hbinary] at h
    exact hexponent (.inr rfl) h
  | case19 =>
    rw [ofSuffix?] at h
    · cases h
    all_goals assumption

end Scale

/-! ### Amounts -/

theorem IsSuffix.not_isNumberChar_head {suffix : List Char} {base : Nat} {power : Int}
    (h : IsSuffix suffix base power) : suffix.head?.any isNumberChar = false := by
  cases h with
  | decimal h =>
    have hall : ∀ entry ∈ decimalSuffixes, entry.1.head?.any isNumberChar = false := by decide
    exact hall _ h
  | binary h =>
    have hall : ∀ entry ∈ binarySuffixes, entry.1.head?.any isNumberChar = false := by decide
    exact hall _ h
  | exponent hletter => obtain rfl | rfl := hletter <;> rfl

namespace Written

variable (w : Written)

theorem isDigit_or_point {c : Char} (hc : c ∈ w.whole ++ w.point) :
    c.isDigit = true ∨ c = '.' := by
  have hdigits := w.isDigit_of_mem
  rw [point] at hc
  cases hfraction : w.fraction with
  | none =>
    rw [hfraction] at hc hdigits
    exact .inl (hdigits c hc)
  | some places =>
    rw [hfraction] at hc hdigits
    rw [pointed, List.mem_append, List.mem_cons] at hc
    rcases hc with hc | hc | hc
    · exact .inl (hdigits c (List.mem_append_left _ hc))
    · exact .inr hc
    · exact .inl (hdigits c (List.mem_append_right _ hc))

theorem isNumberChar_of_mem {c : Char} (hc : c ∈ w.sign.chars ++ (w.whole ++ w.point)) :
    isNumberChar c = true := by
  rcases List.mem_append.1 hc with hc | hc
  · have hsign : w.sign.chars.all isNumberChar = true := by
      cases w.sign <;> rfl
    exact List.all_eq_true.1 hsign c hc
  · rcases w.isDigit_or_point hc with hc | rfl
    · simp [isNumberChar, hc]
    · rfl

theorem takeWhile_chars :
    w.chars.takeWhile isNumberChar = w.sign.chars ++ (w.whole ++ w.point) := by
  rw [chars, List.takeWhile_append_of_pos fun c => w.isNumberChar_of_mem]
  have hhead := w.isSuffix.not_isNumberChar_head
  cases hsuffix : w.suffix with
  | nil => rw [List.takeWhile_nil, List.append_nil]
  | cons c rest =>
    rw [hsuffix] at hhead
    have hc : isNumberChar c = false := hhead
    rw [List.takeWhile_cons_of_neg (Bool.eq_false_iff.1 hc), List.append_nil]

theorem dropWhile_chars : w.chars.dropWhile isNumberChar = w.suffix := by
  have happend : w.chars.takeWhile isNumberChar ++ w.chars.dropWhile isNumberChar = w.chars :=
    List.takeWhile_append_dropWhile
  rw [takeWhile_chars] at happend
  exact List.append_cancel_left happend

end Written

theorem Numeral.ofChars_eq (cs : List Char) :
    Numeral.ofChars cs = ⟨decide ((splitSign cs).1 = .minus),
      (splitSign cs).2.takeWhile (· ≠ '.'), ((splitSign cs).2.dropWhile (· ≠ '.')).drop 1⟩ := by
  fun_cases splitSign cs with
  | case1 cs => simp [Numeral.ofChars]
  | case2 cs => simp [Numeral.ofChars]
  | case3 cs hminus hplus => simp [Numeral.ofChars]

theorem Written.ofChars_number (w : Written) :
    Numeral.ofChars (w.sign.chars ++ (w.whole ++ w.point)) =
      ⟨decide (w.sign = .minus), w.whole, w.places⟩ := by
  have hsign : ∀ c ∈ w.whole ++ w.point, c ≠ '+' ∧ c ≠ '-' := by
    intro c hc
    rcases w.isDigit_or_point hc with hdigit | rfl
    · exact ne_sign_of_isDigit hdigit
    · decide
  have hwhole : ∀ c ∈ w.whole, decide (c ≠ '.') = true := by
    intro c hc
    rw [decide_eq_true_eq]
    rintro rfl
    exact absurd (w.isDigit_of_mem _ (List.mem_append_left _ hc)) (by decide)
  rw [Numeral.ofChars_eq, splitSign_append _ hsign, List.takeWhile_append_of_pos hwhole,
    List.dropWhile_append_of_pos hwhole, point, places]
  cases w.fraction <;> simp [pointed]

theorem Numeral.digits_of_nanoUnits? {numeral : Numeral} {scale : Scale} {n : Int}
    (h : numeral.nanoUnits? scale = some n) : numeral.whole ++ numeral.fraction ≠ [] ∧
      ∀ c ∈ numeral.whole ++ numeral.fraction, c.isDigit = true := by
  rw [Numeral.nanoUnits?] at h
  split at h
  · cases h
  · rename_i hdigits
    rw [Bool.or_eq_true, not_or, decide_eq_true_eq, Bool.not_eq_true, Bool.not_eq_false',
      List.all_eq_true] at hdigits
    exact hdigits

theorem Numeral.nanoUnits?_eq_some_iff {numeral : Numeral} {scale : Scale} {n : Int}
    (hsome : numeral.whole ++ numeral.fraction ≠ [])
    (hdigits : ∀ c ∈ numeral.whole ++ numeral.fraction, c.isDigit = true)
    (hmultiplier : 0 < scale.multiplier) (hdivisor : 0 < scale.divisor) :
    numeral.nanoUnits? scale = some n ↔ number (numeral.whole ++ numeral.fraction) < 2 ^ 127 ∧
      number (numeral.whole ++ numeral.fraction) * 10 ^ 9 * scale.multiplier < 2 ^ 127 ∧
      10 ^ numeral.fraction.length * scale.divisor < 2 ^ 127 ∧
      n = (if numeral.negative then -1 else 1) *
        (number (numeral.whole ++ numeral.fraction) * 10 ^ 9 * scale.multiplier /
          (10 ^ numeral.fraction.length * scale.divisor) : Nat) := by
  have hguard : ¬(decide (numeral.whole ++ numeral.fraction = []) ||
      !(numeral.whole ++ numeral.fraction).all Char.isDigit) = true := by
    rw [Bool.or_eq_true, not_or, decide_eq_true_eq, Bool.not_eq_true, Bool.not_eq_false',
      List.all_eq_true]
    exact ⟨hsome, hdigits⟩
  have hsigned : ∀ value : Int, (if numeral.negative then -value else value) =
      (if numeral.negative then -1 else 1) * value := by
    intro value
    rw [ite_mul, neg_one_mul, one_mul]
  rw [Numeral.nanoUnits?]
  simp only [if_neg hguard, Option.bind_eq_bind, Option.bind_eq_some_iff, fitting?_eq_some_iff,
    powerOfTen?_eq_some_iff, Option.pure_def, Option.some.injEq]
  constructor
  · rintro ⟨_, ⟨hmantissa, rfl⟩, _, ⟨-, rfl⟩, _, ⟨-, rfl⟩, _, ⟨hnumerator, rfl⟩, _,
      ⟨hdenominator, rfl⟩, rfl⟩
    exact ⟨hmantissa, hnumerator, hdenominator, hsigned _⟩
  · rintro ⟨hmantissa, hnumerator, hdenominator, rfl⟩
    -- what stays below the bound after a multiplication was below it before
    have hplaces := (Nat.le_mul_of_pos_right _ hdivisor).trans_lt hdenominator
    have hbillionths := (Nat.le_mul_of_pos_right _ hmultiplier).trans_lt hnumerator
    exact ⟨_, ⟨hmantissa, rfl⟩, _, ⟨hplaces, rfl⟩, _, ⟨hbillionths, rfl⟩, _, ⟨hnumerator, rfl⟩, _,
      ⟨hdenominator, rfl⟩, hsigned _⟩

theorem IsSuffix.base_pos {suffix : List Char} {base : Nat} {power : Int}
    (h : IsSuffix suffix base power) : 0 < base := by
  cases h <;> decide

namespace Written

variable (w : Written)

theorem multiplier_pos : 0 < w.multiplier :=
  Nat.pow_pos w.isSuffix.base_pos

theorem divisor_pos : 0 < w.divisor :=
  Nat.pow_pos w.isSuffix.base_pos

theorem base_zpow_power : (w.base : ℚ) ^ w.power = (w.multiplier : ℚ) / w.divisor := by
  rw [multiplier, divisor]
  obtain ⟨k, hk | hk⟩ := w.power.eq_nat_or_neg
  · have hzero : (-(k : Int)).toNat = 0 := by omega
    rw [hk, hzero, Int.toNat_natCast, zpow_natCast, pow_zero]
    push_cast
    rw [div_one]
  · have hzero : (-(k : Int)).toNat = 0 := by omega
    rw [hk, hzero, neg_neg, Int.toNat_natCast, zpow_neg, zpow_natCast, pow_zero]
    push_cast
    rw [one_div]

/-- What is written, in billionths, is a quotient of two natural numbers with a sign. -/
theorem billionths_eq : 10 ^ 9 * w.value = w.sign.factor *
    (((number w.digits * 10 ^ 9 * w.multiplier : Nat) : ℚ) /
      (10 ^ w.places.length * w.divisor : Nat)) := by
  have hplaces : (10 : ℚ) ^ w.places.length ≠ 0 := by positivity
  have hdivisor : (w.divisor : ℚ) ≠ 0 := Nat.cast_ne_zero.2 w.divisor_pos.ne'
  rw [value, numerals_eq, base_zpow_power]
  push_cast
  field_simp
  ring

theorem nanoUnitsOfChars?_eq_some_iff {n : Int} :
    nanoUnitsOfChars? w.chars = some n ↔ w.Fits ∧ n = truncated (10 ^ 9 * w.value) := by
  have hnegative : (if decide (w.sign = .minus) = true then -1 else 1 : Int) = w.sign.factor := by
    cases w.sign <;> rfl
  rw [billionths_eq, Sign.truncated_factor_mul]
  simp only [nanoUnitsOfChars?, takeWhile_chars, dropWhile_chars, ofChars_number,
    Option.bind_eq_bind, Option.bind_eq_some_iff, Scale.ofSuffix?_of_isSuffix w.isSuffix]
  constructor
  · rintro ⟨_, ⟨hpower, rfl⟩, h⟩
    rw [Numeral.nanoUnits?_eq_some_iff w.digits_ne_nil w.isDigit_of_mem w.multiplier_pos
      w.divisor_pos] at h
    obtain ⟨hmantissa, hnumerator, hdenominator, rfl⟩ := h
    exact ⟨⟨hmantissa, hpower, hnumerator, hdenominator⟩, by rw [hnegative]; rfl⟩
  · rintro ⟨⟨hmantissa, hpower, hnumerator, hdenominator⟩, rfl⟩
    refine ⟨_, ⟨hpower, rfl⟩, ?_⟩
    rw [Numeral.nanoUnits?_eq_some_iff w.digits_ne_nil w.isDigit_of_mem w.multiplier_pos
      w.divisor_pos]
    exact ⟨hmantissa, hnumerator, hdenominator, by rw [hnegative]; rfl⟩

end Written

theorem exists_fraction (cs : List Char) : ∃ fraction : Option (List Char),
    cs.dropWhile (· ≠ '.') = pointed fraction ∧
      (cs.dropWhile (· ≠ '.')).drop 1 = fraction.getD [] := by
  have hhead := List.head?_dropWhile_not (fun c => decide (c ≠ '.')) cs
  cases hdrop : cs.dropWhile (· ≠ '.') with
  | nil => exact ⟨none, rfl, rfl⟩
  | cons c places =>
    rw [hdrop] at hhead
    obtain rfl : c = '.' := by simpa using hhead
    exact ⟨some places, rfl, rfl⟩

/-- Only what is written as an amount has a value. -/
theorem exists_written {cs : List Char} {n : Int} (h : nanoUnitsOfChars? cs = some n) :
    ∃ w : Written, w.chars = cs := by
  obtain ⟨scale, hscale, hn⟩ := Option.bind_eq_some_iff.1 h
  obtain ⟨base, power, hsuffix⟩ := Scale.exists_isSuffix hscale
  rw [Numeral.ofChars_eq] at hn
  obtain ⟨hsome, hdigits⟩ := Numeral.digits_of_nanoUnits? hn
  have hnumber := chars_splitSign (cs.takeWhile isNumberChar)
  obtain ⟨fraction, hpoint, hplaces⟩ := exists_fraction (splitSign (cs.takeWhile isNumberChar)).2
  rw [hplaces] at hsome hdigits
  refine ⟨⟨(splitSign (cs.takeWhile isNumberChar)).1, _, fraction, _, base, power, hdigits, hsome,
    hsuffix⟩, ?_⟩
  rw [Written.chars, Written.point, ← hpoint, List.takeWhile_append_dropWhile, hnumber,
    List.takeWhile_append_dropWhile]

end CompositeApps.Quantity
