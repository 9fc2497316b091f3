import CompositeApps.Json.Decoder
import CompositeApps.Time.Duration

/-!
What the operator counts: passes by how they ended, changes by kind and outcome, and how long the
passes took.
-/

namespace CompositeApps

/-- Counts of values up to each of some bounds, and of all. -/
structure Histogram where
  bounds : List Binary64
  /-- For each bound, how many values were not above it. -/
  counts : List Nat
  sum : Binary64
  count : Nat
  deriving DecidableEq, Inhabited

namespace Histogram

def empty (bounds : List Binary64) : Histogram :=
  ⟨bounds, bounds.map fun _ => 0, .zero, 0⟩

def observe (h : Histogram) (value : Binary64) : Histogram :=
  { h with
    counts := List.zipWith (fun bound n => if value.le bound then n + 1 else n) h.bounds h.counts
    sum := h.sum.addMagnitudes value
    count := h.count + 1 }

end Histogram

/-- The number of seconds: the whole ones and the fraction are rounded before they are added. -/
def Duration.seconds (d : Duration) : Binary64 :=
  (Binary64.ofNat d.secs).addMagnitudes ((Binary64.ofNat d.nanos).div (.powerOfTen 9))

def Duration.ofMicros (micros : Nat) (h : micros < 0x10000000000000000) : Duration :=
  ⟨micros / 1000000, micros % 1000000 * 1000, by omega, by omega⟩

structure Metrics where
  passes : Dict Nat := ∅
  /-- The counts by kind and, within a kind, by outcome. -/
  changes : Dict (Dict Nat) := ∅
  durations : Histogram
  deriving DecidableEq

namespace Metrics

def bounds : List Binary64 :=
  [(5, 1000), (1, 100), (25, 1000), (5, 100), (1, 10), (25, 100), (5, 10), (1, 1), (25, 10), (5, 1),
    (10, 1)].map fun (num, den) => Binary64.ofRatio false num den

def empty : Metrics := ⟨∅, ∅, .empty bounds⟩

instance : Inhabited Metrics := ⟨empty⟩

def passCount (m : Metrics) (outcome : String) : Nat :=
  m.passes[outcome]?.getD 0

def changeCount (m : Metrics) (kind outcome : String) : Nat :=
  (m.changes[kind]?.getD ∅)[outcome]?.getD 0

def setPassCount (m : Metrics) (outcome : String) (n : Nat) : Metrics :=
  { m with passes := m.passes.insert outcome n }

def setChangeCount (m : Metrics) (kind outcome : String) (n : Nat) : Metrics :=
  { m with changes := m.changes.insert kind ((m.changes[kind]?.getD ∅).insert outcome n) }

def recordPass (m : Metrics) (outcome : String) (elapsed : Duration) : Metrics :=
  { m.setPassCount outcome (m.passCount outcome + 1) with
    durations := m.durations.observe elapsed.seconds }

def recordChange (m : Metrics) (kind outcome : String) : Metrics :=
  m.setChangeCount kind outcome (m.changeCount kind outcome + 1)

/-- A counter that is read is there from then on. -/
def readPasses (m : Metrics) (outcome : String) : Nat × Metrics :=
  let n := m.passCount outcome
  (n, m.setPassCount outcome n)

def readChanges (m : Metrics) (kind outcome : String) : Nat × Metrics :=
  let n := m.changeCount kind outcome
  (n, m.setChangeCount kind outcome n)

end Metrics

end CompositeApps
