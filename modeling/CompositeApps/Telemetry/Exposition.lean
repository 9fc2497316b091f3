import CompositeApps.Number.Shortest
import CompositeApps.Telemetry.Metrics

/-!
Metrics as text: families in the order of their names, and within a family one line for each sample
in the order of its labels. A family of counters without samples is left out.
-/

namespace CompositeApps.Exposition

inductive FamilyKind where
  | counter
  | histogram
  deriving DecidableEq, Repr

def FamilyKind.name : FamilyKind → String
  | counter => "counter"
  | histogram => "histogram"

structure Sample where
  name : String
  labels : List (String × String)
  value : Binary64

structure Family where
  name : String
  help : String
  kind : FamilyKind
  samples : List Sample

/-- Backslashes, quotes and line ends in a label are written with a backslash. -/
def escapeLabel (c : Char) : List Char :=
  if c = '\\' then ['\\', '\\']
  else if c = '"' then ['\\', '"']
  else if c = '\n' then ['\\', 'n']
  else [c]

def labelText (label : String × String) : String :=
  label.1 ++ "=\"" ++ String.ofList (label.2.toList.flatMap escapeLabel) ++ "\""

def Sample.text (s : Sample) : String :=
  let labels :=
    if s.labels.isEmpty then ""
    else "\x7b" ++ ",".intercalate (s.labels.map labelText) ++ "\x7d"
  s.name ++ labels ++ " " ++ s.value.text

def Family.lines (f : Family) : List String :=
  ["# HELP " ++ f.name ++ " " ++ f.help, "# TYPE " ++ f.name ++ " " ++ f.kind.name] ++
    f.samples.map Sample.text

/-- The samples of a histogram: one for each bound, one for all values, their sum and number. -/
def histogramSamples (name : String) (h : Histogram) : List Sample :=
  let bucket (bound : String) (n : Nat) : Sample :=
    ⟨name ++ "_bucket", [("le", bound)], .ofNat n⟩
  List.zipWith (fun bound n => bucket bound.text n) h.bounds h.counts ++
    [bucket "+Inf" h.count, ⟨name ++ "_sum", [], h.sum⟩, ⟨name ++ "_count", [], .ofNat h.count⟩]

def changesFamily (m : Metrics) : Family :=
  let name := "composite_child_changes_total"
  { name, help := "Child object writes by kind and outcome", kind := .counter
    samples := m.changes.toList.flatMap fun (kind, counts) =>
      counts.toList.map fun (outcome, n) =>
        ⟨name, [("kind", kind), ("outcome", outcome)], .ofNat n⟩ }

def durationsFamily (m : Metrics) : Family :=
  let name := "composite_reconcile_duration_seconds"
  { name, help := "Wall time of one reconcile pass", kind := .histogram
    samples := histogramSamples name m.durations }

def passesFamily (m : Metrics) : Family :=
  let name := "composite_reconcile_passes_total"
  { name, help := "Reconcile passes by outcome", kind := .counter
    samples := m.passes.toList.map fun (outcome, n) => ⟨name, [("outcome", outcome)], .ofNat n⟩ }

def families (m : Metrics) : List Family :=
  [changesFamily m, durationsFamily m, passesFamily m].filter (!·.samples.isEmpty)

def lines (m : Metrics) : List String :=
  (families m).flatMap Family.lines

end CompositeApps.Exposition

namespace CompositeApps

def Metrics.render (m : Metrics) : String :=
  String.join ((Exposition.lines m).map (· ++ "\n"))

end CompositeApps
