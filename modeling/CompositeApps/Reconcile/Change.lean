import CompositeApps.Failure

/-!
What a pass does to the objects of an app: one change for each object that it brings in line.
-/

namespace CompositeApps

inductive ChangeOutcome where
  | created
  | updated
  | deleted
  | unchanged
  deriving DecidableEq, Repr, Inhabited

namespace ChangeOutcome

def all : List ChangeOutcome :=
  [created, updated, deleted, unchanged]

def name : ChangeOutcome → String
  | created => "created"
  | updated => "updated"
  | deleted => "deleted"
  | unchanged => "unchanged"

def ofName? (name : String) : Option ChangeOutcome :=
  all.find? (·.name = name)

def isWrite (o : ChangeOutcome) : Bool :=
  o ≠ unchanged

end ChangeOutcome

structure Change where
  kind : String
  name : String
  outcome : ChangeOutcome
  deriving DecidableEq, Repr, Inhabited

namespace Change

def isWrite (c : Change) : Bool :=
  c.outcome.isWrite

def text (c : Change) : String :=
  c.kind ++ " " ++ c.name ++ " " ++ c.outcome.name

def writes (changes : List Change) : Nat :=
  (changes.filter isWrite).length

def summary (changes : List Change) : String :=
  ", ".intercalate ((changes.filter isWrite).map text)

end Change

end CompositeApps
