import CompositeApps.Failure
import CompositeApps.Proofs.Quantity.Written

/-!
The value of an amount as a machine computes it, with numbers of 128 bits and with texts that are
cut at bytes. Each of these steps can abort; none of them does, so what a machine comes to is the
value of the amount.
-/

namespace CompositeApps.Quantity

variable {α β γ : Type}

/-! ### Texts that are cut at bytes -/

def byteCount (cs : List Char) : Nat :=
  (cs.map Char.utf8Size).sum

def findOffset? (p : Char → Bool) : List Char → Option Nat
  | [] => none
  | c :: cs => if p c then some 0 else (findOffset? p cs).map (c.utf8Size + ·)

/-- What stands before a byte and what stands from there on. It aborts if no character starts at
this byte and the text does not end there. -/
def splitAt : List Char → Nat → Aborting (List Char × List Char)
  | [], offset => if offset = 0 then .ok ([], []) else .error ⟨"failed to slice string"⟩
  | c :: cs, offset =>
    if offset = 0 then .ok ([], c :: cs)
    else if c.utf8Size ≤ offset then
      (splitAt cs (offset - c.utf8Size)).map fun (before, after) => (c :: before, after)
    else .error ⟨"failed to slice string"⟩

theorem byteCount_cons (c : Char) (cs : List Char) :
    byteCount (c :: cs) = c.utf8Size + byteCount cs :=
  List.sum_cons

theorem findOffset?_getD (p : Char → Bool) (cs : List Char) :
    (findOffset? p cs).getD (byteCount cs) = byteCount (cs.takeWhile fun c => !p c) := by
  induction cs with
  | nil => rfl
  | cons c cs ih =>
    rw [findOffset?, List.takeWhile_cons]
    cases p c with
    | true => rfl
    | false =>
      rw [if_neg Bool.false_ne_true, Bool.not_false, if_pos rfl, byteCount_cons, byteCount_cons,
        ← ih]
      cases findOffset? p cs <;> rfl

theorem splitAt_byteCount (before after : List Char) :
    splitAt (before ++ after) (byteCount before) = .ok (before, after) := by
  induction before with
  | nil => cases after <;> rfl
  | cons c before ih =>
    have hpos : 0 < c.utf8Size := c.utf8Size_pos
    rw [List.cons_append, splitAt, byteCount_cons, if_neg (by omega),
      if_pos (Nat.le_add_right _ _), Nat.add_sub_cancel_left, ih]
    rfl

theorem byteCount_of_isDigit {cs : List Char} (h : ∀ c ∈ cs, c.isDigit = true) :
    byteCount cs = cs.length := by
  have hone : ∀ c ∈ cs, c.utf8Size = 1 := by
    intro c hc
    have hdigit := h c hc
    rw [Char.isDigit, Bool.and_eq_true, decide_eq_true_eq, decide_eq_true_eq] at hdigit
    rw [Char.utf8Size_eq_one_iff]
    exact UInt32.le_trans hdigit.2 (by decide)
  rw [byteCount, List.map_congr_left hone, List.map_const', List.sum_replicate_nat, Nat.mul_one]

/-! ### Numbers of 128 bits -/

def InRange (n : Int) : Prop :=
  -2 ^ 127 ≤ n ∧ n < 2 ^ 127

instance (n : Int) : Decidable (InRange n) :=
  inferInstanceAs (Decidable (_ ∧ _))

def checked (n : Int) : Option Int :=
  if InRange n then some n else none

def negated (n : Int) : Aborting Int :=
  if InRange (-n) then .ok (-n) else .error ⟨"attempt to negate with overflow"⟩

def divided (n d : Int) : Aborting Int :=
  if d = 0 then .error ⟨"attempt to divide by zero"⟩
  else if InRange (n.tdiv d) then .ok (n.tdiv d)
  else .error ⟨"attempt to divide with overflow"⟩

def shiftedOne (power : Nat) : Aborting Int :=
  if power < 128 then .ok ((2 ^ power : Int).bmod (2 ^ 128))
  else .error ⟨"attempt to shift left with overflow"⟩

/-! ### Evaluation -/

/-- A computation that may have no result, and may abort. -/
abbrev Evaluation (α : Type) := OptionT Aborting α

def ofOption (o : Option α) : Evaluation α :=
  OptionT.mk (.ok o)

def exponentOfCount (count : Nat) : Evaluation Nat :=
  ofOption (if count < 2 ^ 32 then some count else none)

def checkedPower (exponent : Nat) : Evaluation Int :=
  ofOption (checked (10 ^ exponent))

def decimalScale (power : Int) : Evaluation (Int × Int) := do
  let n ← checkedPower power.natAbs
  return if 0 ≤ power then (n, 1) else (1, n)

def binaryScale (power : Nat) : Evaluation (Int × Int) := do
  return (← shiftedOne power, 1)

def scale (suffix : List Char) : Evaluation (Int × Int) :=
  match decimalSuffixes.lookup suffix, binarySuffixes.lookup suffix with
  | some power, _ => decimalScale power
  | none, some power => binaryScale power
  | none, none =>
    if suffix.head? = some 'e' ∨ suffix.head? = some 'E' then do
      let (_, exponent) ← splitAt suffix 1
      decimalScale (← ofOption (Scale.exponent? exponent))
    else failure

def evaluateNumeral (numeral : Numeral) (suffix : List Char) : Evaluation Int := do
  let digits := numeral.whole ++ numeral.fraction
  if digits = [] || !digits.all Char.isDigit then failure
  let mantissa ← ofOption (checked (Nat.ofDigitChars 10 digits 0))
  let (multiplier, divisor) ← scale suffix
  let places ← checkedPower (← exponentOfCount (byteCount numeral.fraction))
  let numerator ← ofOption (checked (mantissa * 1000000000))
  let numerator ← ofOption (checked (numerator * multiplier))
  let denominator ← ofOption (checked (places * divisor))
  let value ← divided numerator denominator
  if numeral.negative then negated value else return value

def evaluate (text : String) : Evaluation Int := do
  let cs := Text.trimChars text.toList
  let (number, suffix) ←
    splitAt cs ((findOffset? (fun c => !isNumberChar c) cs).getD (byteCount cs))
  evaluateNumeral (Numeral.ofChars number) suffix

theorem run_bind_of_run {x : Evaluation γ} {f : γ → Evaluation β} {o : Option α} {e : α → γ}
    {g : α → Option β} (hx : x.run = .ok (o.map e))
    (hf : ∀ a, o = some a → (f (e a)).run = .ok (g a)) : (x >>= f).run = .ok (o.bind g) := by
  rw [OptionT.run_bind, hx]
  cases o with
  | none => rfl
  | some a => exact hf a rfl

theorem run_liftM_bind {x : Aborting α} {a : α} (hx : x = .ok a) (f : α → Evaluation β) :
    ((liftM x : Evaluation α) >>= f).run = (f a).run := by
  subst hx
  rfl

theorem checked_natCast (n : Nat) : checked n = (fitting? n).map Nat.cast := by
  have hiff : InRange n ↔ n < bound := by
    rw [InRange, bound_eq]
    omega
  rw [checked, fitting?]
  by_cases hn : n < bound
  · rw [if_pos (hiff.2 hn), if_pos hn]
    rfl
  · rw [if_neg fun h => hn (hiff.1 h), if_neg hn]
    rfl

theorem fitting?_ten_pow (n : Nat) : fitting? (10 ^ n) = powerOfTen? n := by
  ext m
  rw [fitting?_eq_some_iff, powerOfTen?_eq_some_iff]

theorem checkedPower_run (n : Nat) :
    (checkedPower n).run = .ok ((powerOfTen? n).map Nat.cast) := by
  have hcast : (10 : Int) ^ n = (10 ^ n : Nat) := by
    push_cast
    rfl
  rw [checkedPower, hcast, checked_natCast, fitting?_ten_pow]
  rfl

def Scale.held (scale : Scale) : Int × Int :=
  (scale.multiplier, scale.divisor)

theorem decimalScale_run (power : Int) :
    (decimalScale power).run = .ok ((Scale.decimal? power).map Scale.held) := by
  have hbind : Scale.decimal? power = (powerOfTen? power.natAbs).bind fun n =>
      some (if 0 ≤ power then ⟨n, 1⟩ else ⟨1, n⟩) := rfl
  rw [hbind, Option.map_bind, decimalScale, run_bind_of_run (checkedPower_run _)]
  intro n hn
  split <;> rfl

theorem binaryScale_run {power : Nat} (hpower : power ≤ 126) :
    (binaryScale power).run = .ok (some (Scale.binary power).held) := by
  have hlt : (2 : Int) ^ power ≤ 2 ^ 126 := pow_le_pow_right₀ (by decide) hpower
  have hpos : (0 : Int) < 2 ^ power := by positivity
  have hshift : shiftedOne power = .ok (2 ^ power) := by
    rw [shiftedOne, if_pos (by omega), Int.bmod_eq_of_le (by omega) (by omega)]
  rw [binaryScale, run_liftM_bind hshift, Scale.held, Scale.binary]
  push_cast
  rfl

theorem mem_of_lookup {suffix : List Char} {table : List (List Char × α)} {power : α}
    (h : table.lookup suffix = some power) : (suffix, power) ∈ table := by
  obtain ⟨before, after, rfl, -⟩ := List.lookup_eq_some_iff.1 h
  exact List.mem_append_right _ List.mem_cons_self

theorem exponentScale_run {letter : Char} (cs : List Char) (hletter : letter = 'e' ∨ letter = 'E')
    (hdecimal : decimalSuffixes.lookup (letter :: cs) = none)
    (hbinary : binarySuffixes.lookup (letter :: cs) = none) :
    (scale (letter :: cs)).run =
      .ok (((Scale.exponent? cs).bind Scale.decimal?).map Scale.held) := by
  have hsplit : splitAt (letter :: cs) 1 = .ok ([letter], cs) := by
    have hone : byteCount [letter] = 1 := by
      obtain rfl | rfl := hletter <;> rfl
    rw [← hone]
    exact splitAt_byteCount [letter] cs
  have hhead : (letter :: cs).head? = some 'e' ∨ (letter :: cs).head? = some 'E' :=
    hletter.imp (congrArg some) (congrArg some)
  have hexponent : (ofOption (Scale.exponent? cs)).run = .ok ((Scale.exponent? cs).map id) := by
    rw [Option.map_id]
    rfl
  rw [scale, hdecimal, hbinary]
  dsimp only
  rw [if_pos hhead, run_liftM_bind hsplit, Option.map_bind]
  exact run_bind_of_run hexponent fun power _ => decimalScale_run power

theorem scale_run (suffix : List Char) :
    (scale suffix).run = .ok ((Scale.ofSuffix? suffix).map Scale.held) := by
  cases hdecimal : decimalSuffixes.lookup suffix with
  | some power =>
    rw [scale, hdecimal, Scale.ofSuffix?_of_mem_decimalSuffixes (mem_of_lookup hdecimal)]
    exact decimalScale_run power
  | none =>
  cases hbinary : binarySuffixes.lookup suffix with
  | some power =>
    have hsmall : ∀ entry ∈ binarySuffixes, entry.2 ≤ 126 := by decide
    have hmem := mem_of_lookup hbinary
    rw [scale, hdecimal, hbinary, Scale.ofSuffix?_of_mem_binarySuffixes hmem]
    exact binaryScale_run (hsmall _ hmem)
  | none =>
  fun_cases Scale.ofSuffix? suffix with
  | case1 | case2 | case3 | case4 | case5 | case6 | case7 | case8 | case9 | case10 =>
    exact absurd hdecimal (by decide)
  | case11 | case12 | case13 | case14 | case15 | case16 => exact absurd hbinary (by decide)
  | case17 cs => exact exponentScale_run cs (.inl rfl) hdecimal hbinary
  | case18 cs => exact exponentScale_run cs (.inr rfl) hdecimal hbinary
  | case19 =>
    rename_i he hE
    have hhead : ¬(suffix.head? = some 'e' ∨ suffix.head? = some 'E') := by
      rw [List.head?_eq_some_iff, List.head?_eq_some_iff]
      rintro (⟨cs, rfl⟩ | ⟨cs, rfl⟩)
      · exact he cs rfl
      · exact hE cs rfl
    rw [scale, hdecimal, hbinary]
    dsimp only
    rw [if_neg hhead]
    rfl

theorem Scale.divisor_pos {suffix : List Char} {scale : Scale}
    (h : Scale.ofSuffix? suffix = some scale) : 0 < scale.divisor := by
  obtain ⟨base, power, hsuffix⟩ := Scale.exists_isSuffix h
  obtain ⟨-, rfl⟩ := (Scale.ofSuffix?_of_isSuffix hsuffix).1 h
  exact Nat.pow_pos hsuffix.base_pos

theorem checked_run (n : Nat) :
    (ofOption (checked (n : Int))).run = .ok ((fitting? n).map Nat.cast) := by
  rw [checked_natCast]
  rfl

theorem inRange_natCast {n : Nat} (hn : n < bound) : InRange n := by
  rw [bound_eq] at hn
  rw [InRange]
  omega

theorem divided_natCast {n d : Nat} (hn : n < bound) (hd : 0 < d) :
    divided n d = .ok ((n / d : Nat) : Int) := by
  have hlt : n / d < bound := (Nat.div_le_self n d).trans_lt hn
  rw [divided, if_neg (by omega), ← Int.ofNat_tdiv, if_pos (inRange_natCast hlt)]

theorem negated_natCast {n : Nat} (hn : n < bound) : negated n = .ok (-n) := by
  have hrange : InRange (-(n : Int)) := by
    rw [bound_eq] at hn
    rw [InRange]
    omega
  rw [negated, if_pos hrange]

theorem places_run {fraction : List Char} (hdigits : ∀ c ∈ fraction, c.isDigit = true) :
    (exponentOfCount (byteCount fraction) >>= checkedPower).run =
      .ok ((powerOfTen? fraction.length).map Nat.cast) := by
  rw [byteCount_of_isDigit hdigits, exponentOfCount]
  split
  · exact checkedPower_run _
  · rename_i hlarge
    rw [powerOfTen?, if_neg (by omega)]
    rfl

theorem Numeral.bind_nanoUnits? {numeral : Numeral} (o : Option Scale)
    (hguard : ¬(decide (numeral.whole ++ numeral.fraction = []) ||
      !(numeral.whole ++ numeral.fraction).all Char.isDigit) = true) :
    o.bind numeral.nanoUnits? =
      (fitting? (Nat.ofDigitChars 10 (numeral.whole ++ numeral.fraction) 0)).bind fun mantissa =>
        o.bind fun scale => (powerOfTen? numeral.fraction.length).bind fun places =>
        (fitting? (mantissa * 1000000000)).bind fun numerator =>
        (fitting? (numerator * scale.multiplier)).bind fun numerator =>
        (fitting? (places * scale.divisor)).bind fun denominator =>
        some (if numeral.negative then -((numerator / denominator : Nat) : Int)
          else ((numerator / denominator : Nat) : Int)) := by
  cases o with
  | none => cases fitting? (Nat.ofDigitChars 10 (numeral.whole ++ numeral.fraction) 0) <;> rfl
  | some scale =>
    rw [Option.bind_some, Numeral.nanoUnits?]
    dsimp only
    rw [if_neg hguard]
    rfl

theorem evaluateNumeral_run (numeral : Numeral) (suffix : List Char) :
    (evaluateNumeral numeral suffix).run =
      .ok ((Scale.ofSuffix? suffix).bind numeral.nanoUnits?) := by
  rw [evaluateNumeral]
  dsimp only
  split
  · rename_i hguard
    have hnone : ∀ scale, numeral.nanoUnits? scale = none := by
      intro scale
      rw [Numeral.nanoUnits?]
      dsimp only
      rw [if_pos hguard]
      rfl
    cases Scale.ofSuffix? suffix with
    | none => rfl
    | some scale =>
      rw [Option.bind_some, hnone]
      rfl
  · rename_i hguard
    have hfraction : ∀ c ∈ numeral.fraction, c.isDigit = true := by
      intro c hc
      rw [Bool.or_eq_true, not_or, Bool.not_eq_true, Bool.not_eq_true, Bool.not_eq_false',
        List.all_eq_true] at hguard
      exact hguard.2 c (List.mem_append_right _ hc)
    rw [Numeral.bind_nanoUnits? _ hguard]
    refine run_bind_of_run (checked_run _) fun mantissa _ => ?_
    refine run_bind_of_run (scale_run suffix) fun scale hscale => ?_
    rw [← bind_assoc]
    refine run_bind_of_run (places_run hfraction) fun places hplaces => ?_
    refine run_bind_of_run (checked_run (mantissa * 1000000000)) fun numerator _ => ?_
    refine run_bind_of_run (checked_run (numerator * scale.multiplier)) fun numerator hn => ?_
    refine run_bind_of_run (checked_run (places * scale.divisor)) fun denominator hd => ?_
    obtain ⟨-, rfl⟩ := powerOfTen?_eq_some_iff.1 hplaces
    obtain ⟨-, rfl⟩ := fitting?_eq_some_iff.1 hd
    have hlt : numerator < bound := by
      obtain ⟨hlt, rfl⟩ := fitting?_eq_some_iff.1 hn
      rwa [bound_eq]
    have hpos : 0 < 10 ^ numeral.fraction.length * scale.divisor :=
      Nat.mul_pos (Nat.pow_pos (by decide)) (Scale.divisor_pos hscale)
    rw [run_liftM_bind (divided_natCast hlt hpos)]
    split
    · rw [negated_natCast ((Nat.div_le_self _ _).trans_lt hlt)]
      rfl
    · rfl

/-- A machine comes to the value of an amount, and does not abort. -/
theorem evaluate_run (text : String) : (evaluate text).run = .ok (nanoUnits? text) := by
  rw [evaluate, nanoUnits?]
  generalize Text.trimChars text.toList = cs
  have hsplit : splitAt cs ((findOffset? (fun c => !isNumberChar c) cs).getD (byteCount cs)) =
      .ok (cs.takeWhile isNumberChar, cs.dropWhile isNumberChar) := by
    have happend : cs.takeWhile isNumberChar ++ cs.dropWhile isNumberChar = cs :=
      List.takeWhile_append_dropWhile
    have h := splitAt_byteCount (cs.takeWhile isNumberChar) (cs.dropWhile isNumberChar)
    rw [happend] at h
    simpa only [findOffset?_getD, Bool.not_not] using h
  dsimp only
  rw [run_liftM_bind hsplit]
  exact evaluateNumeral_run _ _

/-- A text has a value just if it is written as an amount whose numbers are not too large, and the
value is what is written there, in billionths and truncated toward zero. A machine comes to it
without an abort, and in particular never divides by zero. -/
theorem nanoUnits?_exact (text : String) :
    (evaluate text).run = .ok (nanoUnits? text) ∧
      (∀ n, nanoUnits? text = some n ↔ ∃ w : Written, w.chars = Text.trimChars text.toList ∧
        w.Fits ∧ n = truncated (10 ^ 9 * w.value)) ∧
      ∀ suffix scale, Scale.ofSuffix? suffix = some scale →
        ∀ places : Nat, 10 ^ places * scale.divisor ≠ 0 := by
  refine ⟨evaluate_run text, ?_, ?_⟩
  · intro n
    constructor
    · intro h
      obtain ⟨w, hw⟩ := exists_written h
      rw [nanoUnits?, ← hw, w.nanoUnitsOfChars?_eq_some_iff] at h
      exact ⟨w, hw, h⟩
    · rintro ⟨w, hw, h⟩
      rw [nanoUnits?, ← hw, w.nanoUnitsOfChars?_eq_some_iff]
      exact h
  · intro suffix scale hscale places
    exact (Nat.mul_pos (Nat.pow_pos (by decide)) (Scale.divisor_pos hscale)).ne'

example : nanoUnits? " -1.5Ki " = some (-1536000000000) := by decide +kernel

example : nanoUnits? "0.0000000019E0" = some 1 := by decide +kernel

end CompositeApps.Quantity
