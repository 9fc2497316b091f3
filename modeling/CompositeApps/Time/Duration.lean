import CompositeApps.Failure
import CompositeApps.Text.Basic

/-!
Spans of time as whole seconds and nanoseconds, and their written form in protocol messages.
-/

namespace CompositeApps

structure Duration where
  secs : Nat
  nanos : Nat
  secs_lt : secs < 0x10000000000000000 := by decide
  nanos_lt : nanos < 1000000000 := by decide
  deriving DecidableEq, Repr

namespace Duration

instance : Inhabited Duration := ⟨⟨0, 0, by decide, by decide⟩⟩

def zero : Duration := ⟨0, 0, by decide, by decide⟩

def ofSeconds (n : UInt64) : Duration := ⟨n.toNat, 0, n.toNat_lt, by decide⟩

def totalNanos (d : Duration) : Nat :=
  d.secs * 1000000000 + d.nanos

/-- The span made of the given seconds and at most one more second of nanoseconds. The clock has
64 bits for seconds; running over it aborts. -/
def ofParts (secs nanos : Nat) : Aborting Duration :=
  let total := secs + nanos / 1000000000
  if h : total < 0x10000000000000000 then
    .ok ⟨total, nanos % 1000000000, h, Nat.mod_lt _ (by decide)⟩
  else .error ⟨"overflow in Duration::new"⟩

def digits (n : Nat) : List Char :=
  Nat.toDigits 10 n

/-- Seconds with no, three, six or nine decimal places, the fewest that are exact, and an `s`. -/
def protoChars (d : Duration) : List Char :=
  let fraction :=
    if d.nanos = 0 then []
    else if d.nanos % 1000000 = 0 then '.' :: Text.paddedDigits 10 3 (d.nanos / 1000000)
    else if d.nanos % 1000 = 0 then '.' :: Text.paddedDigits 10 6 (d.nanos / 1000)
    else '.' :: Text.paddedDigits 10 9 d.nanos
  digits d.secs ++ fraction ++ ['s']

def protoText (d : Duration) : String :=
  String.ofList d.protoChars

end Duration

end CompositeApps
