import CompositeApps.Proofs.Success
import CompositeApps.Time.DurationParser

/-!
Texts that make the clock run over. A sum of more than its last second is an error like any other,
but one that fills the last second to the nanosecond aborts, and nothing else that is read does.
-/

namespace CompositeApps.Duration

def overrun : Abort :=
  ⟨"overflow in Duration::new"⟩

def FillsClock (total : Duration) (nanos : Nat) : Prop :=
  total.secs = 0xFFFFFFFFFFFFFFFF ∧ total.nanos + nanos = 1000000000

theorem fitting_eq_ok {n m : Nat} : fitting n = .ok m ↔ n < 0x10000000000000000 ∧ n = m := by
  unfold fitting
  split <;> simp [*]

theorem fitting_ne_aborted {n : Nat} {cause : Abort} : fitting n ≠ .error (.aborted cause) := by
  unfold fitting
  split <;> simp

theorem ofParts_eq_aborted {secs nanos : Nat} {cause : Abort} :
    (ofParts secs nanos).mapError Failure.aborted = .error (.aborted cause) ↔
      0x10000000000000000 ≤ secs + nanos / 1000000000 ∧ cause = overrun := by
  unfold ofParts
  dsimp only
  split
  · constructor
    · intro h
      cases h
    · rintro ⟨hover, -⟩
      omega
  · constructor
    · intro h
      have hcause := Failure.aborted.inj (Except.error.inj h)
      exact ⟨by omega, hcause.symm⟩
    · rintro ⟨-, rfl⟩
      rfl

/-- What is left to do once the nanoseconds have been carried over. -/
theorem addCarried_eq_aborted {total : Duration} {secs nanos : Nat} {cause : Abort} :
    (do
      let sum ← fitting (total.secs + secs)
      (ofParts sum nanos).mapError Failure.aborted) = .error (.aborted cause) ↔
      total.secs + secs < 0x10000000000000000 ∧
        0x10000000000000000 ≤ total.secs + secs + nanos / 1000000000 ∧ cause = overrun := by
  rw [bind_eq_error]
  constructor
  · rintro (h | ⟨sum, hsum, h⟩)
    · exact absurd h fitting_ne_aborted
    · obtain ⟨hlt, rfl⟩ := fitting_eq_ok.1 hsum
      exact ⟨hlt, ofParts_eq_aborted.1 h⟩
  · rintro ⟨hlt, hover⟩
    exact .inr ⟨_, fitting_eq_ok.2 ⟨hlt, rfl⟩, ofParts_eq_aborted.2 hover⟩

theorem add_eq_aborted {total : Duration} {secs nanos : Nat} {cause : Abort} :
    total.add secs nanos = .error (.aborted cause) ↔
      total.secs + secs = 0xFFFFFFFFFFFFFFFF ∧ total.nanos + nanos = 1000000000 ∧
        cause = overrun := by
  unfold add
  rw [bind_eq_error]
  constructor
  · rintro (h | ⟨sum, hsum, h⟩)
    · exact absurd h fitting_ne_aborted
    obtain ⟨-, rfl⟩ := fitting_eq_ok.1 hsum
    by_cases hcarry : 1000000000 < total.nanos + nanos
    · -- the carry leaves less than a second of nanoseconds
      rw [if_pos hcarry, bind_eq_error] at h
      rcases h with h | ⟨carried, -, h⟩
      · exact absurd h fitting_ne_aborted
      obtain ⟨hlt, hover, -⟩ := addCarried_eq_aborted.1 h
      omega
    · rw [if_neg hcarry] at h
      obtain ⟨hlt, hover, rfl⟩ := addCarried_eq_aborted.1 h
      exact ⟨by omega, by omega, rfl⟩
  · rintro ⟨hsecs, hnanos, rfl⟩
    refine .inr ⟨_, fitting_eq_ok.2 ⟨by omega, rfl⟩, ?_⟩
    rw [if_neg (by omega)]
    exact addCarried_eq_aborted.2 ⟨by omega, by omega, rfl⟩

/-- Whole seconds never fill the clock: there are always nanoseconds missing. -/
theorem addLength_eq_aborted {total : Duration} {length : TimeUnit.Length} {cause : Abort} :
    total.addLength length = .error (.aborted cause) ↔
      ∃ nanos, length = .nanoseconds nanos ∧ total.FillsClock nanos ∧ cause = overrun := by
  have hnanos := total.nanos_lt
  cases length with
  | seconds n =>
    rw [addLength, add_eq_aborted]
    simp
    omega
  | nanoseconds n =>
    rw [addLength, add_eq_aborted]
    simp [FillsClock, and_assoc]

theorem wholeUnits_ne_aborted {n : Nat} {length : TimeUnit.Length} {cause : Abort} :
    wholeUnits n length ≠ .error (.aborted cause) := by
  intro h
  cases length with
  | seconds s => exact fitting_ne_aborted (map_eq_error.1 h)
  | nanoseconds s => exact fitting_ne_aborted (map_eq_error.1 h)

theorem partUnits_ne_aborted {f : Fraction} {length : TimeUnit.Length} {cause : Abort} :
    partUnits f length ≠ .error (.aborted cause) := by
  have heven : ∀ s, partUnits.even f s ≠ .error (.aborted cause) := by
    intro s h
    rcases bind_eq_error.1 h with h | ⟨n, -, h⟩
    · exact fitting_ne_aborted h
    · split at h
      · cases h
      · cases h
  intro h
  cases length with
  | seconds s => exact heven s (map_eq_error.1 h)
  | nanoseconds s => exact heven s (map_eq_error.1 h)

/-- A number with its unit fills the clock: its whole part does, or its fraction after that. -/
inductive PartFills (total : Duration) (n : Nat) (fraction : Option Fraction) (unit : String) : Prop
  | whole (u : TimeUnit) (nanos : Nat) (known : TimeUnit.ofName? unit = some u)
    (units : wholeUnits n u.length = .ok (.nanoseconds nanos)) (fills : total.FillsClock nanos)
  | rest (u : TimeUnit) (whole length : TimeUnit.Length) (sum : Duration) (f : Fraction)
    (nanos : Nat) (known : TimeUnit.ofName? unit = some u)
    (units : wholeUnits n u.length = .ok whole) (added : total.addLength whole = .ok sum)
    (given : fraction = some f) (divisible : u.fractionLength = some length)
    (parts : partUnits f length = .ok (.nanoseconds nanos)) (fills : sum.FillsClock nanos)

theorem addPart_eq_aborted {total : Duration} {n : Nat} {fraction : Option Fraction}
    {unit : String} {cause : Abort} :
    total.addPart n fraction unit = .error (.aborted cause) ↔
      total.PartFills n fraction unit ∧ cause = overrun := by
  unfold addPart
  constructor
  · intro h
    cases hunit : TimeUnit.ofName? unit with
    | none =>
      rw [hunit] at h
      cases h
    | some u =>
      rw [hunit] at h
      dsimp only at h
      rcases bind_eq_error.1 h with h | ⟨whole, hwhole, h⟩
      · exact absurd h wholeUnits_ne_aborted
      rcases bind_eq_error.1 h with h | ⟨sum, hsum, h⟩
      · obtain ⟨nanos, rfl, hfills, rfl⟩ := addLength_eq_aborted.1 h
        exact ⟨.whole u nanos hunit hwhole hfills, rfl⟩
      cases fraction with
      | none => cases h
      | some f =>
        cases hlength : u.fractionLength with
        | none =>
          simp only [hlength] at h
          cases h
        | some length =>
          simp only [hlength] at h
          rcases bind_eq_error.1 h with h | ⟨part, hpart, h⟩
          · exact absurd h partUnits_ne_aborted
          · obtain ⟨nanos, rfl, hfills, rfl⟩ := addLength_eq_aborted.1 h
            exact ⟨.rest u whole length sum f nanos hunit hwhole hsum rfl hlength hpart hfills, rfl⟩
  · rintro ⟨hfills, rfl⟩
    cases hfills with
    | whole u nanos hunit hunits hfills =>
      rw [hunit]
      refine bind_eq_error.2 (.inr ⟨_, hunits, bind_eq_error.2 (.inl ?_)⟩)
      exact addLength_eq_aborted.2 ⟨nanos, rfl, hfills, rfl⟩
    | rest u whole length sum f nanos hunit hunits hsum hgiven hlength hparts hfills =>
      rw [hunit, hgiven]
      refine bind_eq_error.2 (.inr ⟨_, hunits, bind_eq_error.2 (.inr ⟨_, hsum, ?_⟩)⟩)
      simp only [hlength]
      refine bind_eq_error.2 (.inr ⟨_, hparts, ?_⟩)
      exact addLength_eq_aborted.2 ⟨nanos, rfl, hfills, rfl⟩

namespace Reader

def Fills (r : Reader) : Prop :=
  ∃ n fraction letters, r.cursor = .unit n fraction letters ∧
    r.total.PartFills n fraction (unitName letters)

/-- Nothing that is read before a unit aborts. -/
theorem next_ne_aborted {r : Reader} {c : Char} {cause : Abort}
    (hcursor : ∀ n f letters, r.cursor ≠ .unit n f letters) :
    r.next c ≠ .error (.aborted cause) := by
  rcases r with ⟨total, offset, cursor⟩
  intro h
  cases cursor with
  | gap start =>
    simp only [next] at h
    split at h
    · cases h
    · split at h <;> cases h
  | digits n =>
    simp only [next] at h
    split at h
    · rcases bind_eq_error.1 h with h | ⟨_, _, h⟩
      · exact fitting_ne_aborted h
      · cases h
    · repeat' split at h
      all_goals cases h
  | fraction n f mark =>
    simp only [next] at h
    split at h
    · rcases bind_eq_error.1 h with h | ⟨_, _, h⟩
      · exact fitting_ne_aborted h
      · rcases bind_eq_error.1 h with h | ⟨_, _, h⟩
        · exact fitting_ne_aborted h
        · cases h
    · repeat' split at h
      all_goals cases h
  | unit n f letters => exact hcursor n f letters rfl

theorem next_unit_eq_aborted {total : Duration} {offset n : Nat} {f : Option Fraction}
    {letters : List Char} {c : Char} {cause : Abort} :
    next ⟨total, offset, .unit n f letters⟩ c = .error (.aborted cause) ↔
      total.PartFills n f (unitName letters) ∧ isUnitLetter c = false ∧
        (c.isDigit = true ∨ Text.isBlank c = true) ∧ cause = overrun := by
  have hadded : ∀ rest : Duration → Duration × Cursor,
      (do return rest (← total.addPart n f (unitName letters))) = .error (.aborted cause) ↔
        total.PartFills n f (unitName letters) ∧ cause = overrun := by
    intro rest
    rw [← addPart_eq_aborted, bind_eq_error]
    constructor
    · rintro (h | ⟨_, _, h⟩)
      · exact h
      · cases h
    · exact .inl
  by_cases hletter : isUnitLetter c = true
  · simp [next, hletter, pure, Except.pure]
  by_cases hdigit : c.isDigit = true
  · simp only [next, if_neg hletter, if_pos hdigit]
    rw [hadded fun sum => (sum, .digits (digitValue c))]
    simp [hletter, hdigit]
  by_cases hblank : Text.isBlank c = true
  · simp only [next, if_neg hletter, if_neg hdigit, if_pos hblank]
    rw [hadded fun sum => (sum, .gap (offset + c.utf8Size))]
    simp [hletter, hblank]
  · simp [next, hletter, hdigit, hblank, throw, throwThe, MonadExceptOf.throw]

theorem next_eq_aborted {r : Reader} {c : Char} {cause : Abort} :
    r.next c = .error (.aborted cause) ↔
      r.Fills ∧ isUnitLetter c = false ∧ (c.isDigit = true ∨ Text.isBlank c = true) ∧
        cause = overrun := by
  by_cases hcursor : ∃ n f letters, r.cursor = .unit n f letters
  · obtain ⟨n, f, letters, hunit⟩ := hcursor
    rcases r with ⟨total, offset, cursor⟩
    obtain rfl : cursor = .unit n f letters := hunit
    rw [next_unit_eq_aborted]
    refine and_congr_left fun _ => ?_
    constructor
    · intro hfills
      exact ⟨n, f, letters, rfl, hfills⟩
    · rintro ⟨_, _, _, ⟨⟩, hfills⟩
      exact hfills
  · constructor
    · intro h
      exact absurd h (next_ne_aborted fun n f letters hunit => hcursor ⟨n, f, letters, hunit⟩)
    · rintro ⟨⟨n, f, letters, hunit, -⟩, -⟩
      exact absurd ⟨n, f, letters, hunit⟩ hcursor

/-- Reading on aborts only where a unit is over. -/
theorem advance_eq_aborted {r : Reader} {c : Char} {cause : Abort} :
    r.advance c = .error (.aborted cause) ↔
      r.Fills ∧ isUnitLetter c = false ∧ (c.isDigit = true ∨ Text.isBlank c = true) ∧
        cause = overrun := by
  rw [← next_eq_aborted, advance, bind_eq_error]
  constructor
  · rintro (h | ⟨_, _, h⟩)
    · exact h
    · cases h
  · exact .inl

/-- A number without a unit fills nothing. -/
theorem not_partFills_empty {total : Duration} {n : Nat} {fraction : Option Fraction} :
    ¬total.PartFills n fraction "" := by
  have hunknown : TimeUnit.ofName? "" = none := by decide
  intro h
  cases h with
  | whole u nanos known => exact absurd (hunknown.symm.trans known) (by simp)
  | rest u whole length sum f nanos known => exact absurd (hunknown.symm.trans known) (by simp)

theorem finish_eq_aborted {r : Reader} {cause : Abort} :
    r.finish = .error (.aborted cause) ↔ r.Fills ∧ cause = overrun := by
  rcases r with ⟨total, offset, cursor⟩
  constructor
  · intro h
    cases cursor with
    | gap start => cases start <;> cases h
    | digits n =>
      simp only [finish] at h
      exact absurd (addPart_eq_aborted.1 h).1 not_partFills_empty
    | fraction n f mark =>
      simp only [finish] at h
      split at h
      · cases h
      · exact absurd (addPart_eq_aborted.1 h).1 not_partFills_empty
    | unit n f letters =>
      obtain ⟨hfills, hcause⟩ := addPart_eq_aborted.1 h
      exact ⟨⟨n, f, letters, rfl, hfills⟩, hcause⟩
  · rintro ⟨⟨n, f, letters, rfl, hfills⟩, rfl⟩
    exact addPart_eq_aborted.2 ⟨hfills, rfl⟩

end Reader

/-- The text that is read without a reader would not fill the clock either. -/
theorem Reader.not_fills_of_zero {before after : List Char} {r : Reader}
    (hzero : before ++ after = ['0'])
    (hr : before.foldlM Reader.advance Reader.start = .ok r) : ¬r.Fills := by
  rintro ⟨n, f, letters, hcursor, -⟩
  rcases List.append_eq_singleton_iff.1 hzero with ⟨rfl, -⟩ | ⟨rfl, -⟩
  · obtain rfl := Except.ok.inj hr
    cases hcursor
  · have hdigit : ['0'].foldlM Reader.advance Reader.start = .ok ⟨zero, 1, .digits 0⟩ := rfl
    rw [hdigit] at hr
    obtain rfl := Except.ok.inj hr
    cases hcursor

/-- Whether a number with its unit in the text, added to those before it, fills the clock. The unit
is over: a digit or a blank comes next, or nothing. -/
def Overruns (text : String) : Prop :=
  ∃ before after r, Text.trimChars text.toList = before ++ after ∧
    before.foldlM Reader.advance Reader.start = .ok r ∧ r.Fills ∧
    ∀ c ∈ after.head?, isUnitLetter c = false ∧ (c.isDigit = true ∨ Text.isBlank c = true)

/-- Reading a text aborts just if it overruns the clock. -/
theorem parse_eq_aborted {text : String} {cause : Abort} :
    parse text = .error (.aborted cause) ↔ Overruns text ∧ cause = overrun := by
  unfold parse parseChars Overruns
  generalize Text.trimChars text.toList = chars
  constructor
  · intro h
    split at h
    · cases h
    rcases bind_eq_error.1 h with h | ⟨r, hr, h⟩
    · obtain ⟨before, c, after, r, rfl, hbefore, hc⟩ := foldlM_eq_error.1 h
      obtain ⟨hfills, hletter, hover, hcause⟩ := Reader.advance_eq_aborted.1 hc
      refine ⟨⟨before, c :: after, r, rfl, hbefore, hfills, ?_⟩, hcause⟩
      intro next hnext
      obtain rfl : c = next := by simpa using hnext
      exact ⟨hletter, hover⟩
    · obtain ⟨hfills, hcause⟩ := Reader.finish_eq_aborted.1 h
      exact ⟨⟨chars, [], r, by simp, hr, hfills, by simp⟩, hcause⟩
  · rintro ⟨⟨before, after, r, rfl, hbefore, hfills, hover⟩, rfl⟩
    rw [if_neg fun hzero => r.not_fills_of_zero hzero hbefore hfills, bind_eq_error]
    cases after with
    | nil =>
      rw [List.append_nil]
      exact .inr ⟨r, hbefore, Reader.finish_eq_aborted.2 ⟨hfills, rfl⟩⟩
    | cons c after =>
      obtain ⟨hletter, hend⟩ := hover c rfl
      have hc := Reader.advance_eq_aborted.2 ⟨hfills, hletter, hend, rfl⟩
      exact .inl (foldlM_eq_error.2 ⟨before, c, after, r, rfl, hbefore, hc⟩)

end CompositeApps.Duration
