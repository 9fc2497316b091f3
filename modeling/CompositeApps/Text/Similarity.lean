/-!
How alike two words are: the share of characters that they have in common near the same place, less
those that are out of order. Used to guess which name was meant.
-/

namespace CompositeApps.Text.Similarity

/-- The place of the first free character of `word` that equals `c`, from `lo` up to, and without,
`hi`; `free` tells which characters are still free. -/
def findFree (c : Char) (lo hi : Nat) (word : List Char) (free : List Bool) : Option Nat :=
  ((word.zip free).zipIdx.find? fun ((d, free), i) => lo ≤ i && i < hi && d = c && free).map (·.2)

/-- Pairs off the characters of two words from left to right, each with the first free one at most
`range` places away. Tells which characters of each word found a partner. -/
def pairOff (range : Nat) (b : List Char) :
    Nat → List Char → List Bool → List Bool × List Bool
  | _, [], free => ([], free)
  | i, c :: rest, free =>
    match findFree c (i - range) (i + range + 1) b free with
    | some j =>
      let (used, free) := pairOff range b (i + 1) rest (free.set j false)
      (true :: used, free)
    | none =>
      let (used, free) := pairOff range b (i + 1) rest free
      (false :: used, free)

def marked (mark : Bool) (word : List Char) (marks : List Bool) : List Char :=
  ((word.zip marks).filter (·.2 = mark)).map (·.1)

def ratio (a b : List Char) : Nat × Nat :=
  let (used, free) := pairOff (max a.length b.length / 2 - 1) b 0 a (b.map fun _ => true)
  let common := marked true a used
  let others := marked false b free
  let m := common.length
  let displaced := ((common.zip others).filter fun (c, d) => c ≠ d).length / 2
  if m = 0 then (0, 1)
  else
    (m * m * b.length + m * m * a.length + (m - displaced) * a.length * b.length,
      3 * a.length * b.length * m)

def le (p q : Nat × Nat) : Bool :=
  p.1 * q.2 ≤ q.1 * p.2

/-- The word that is most like the given one, the last of several, if it is alike to more than seven
tenths. -/
def closest? (word : String) (known : List String) : Option String :=
  let alike := known.map fun k => (k, ratio word.toList k.toList)
  let close := alike.filter fun (_, r) => !le r (7, 10)
  (close.foldl (fun best candidate => match best with
    | some b => if le b.2 candidate.2 then some candidate else some b
    | none => some candidate) none).map (·.1)

end CompositeApps.Text.Similarity
