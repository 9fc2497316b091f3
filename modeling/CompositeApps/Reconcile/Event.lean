import CompositeApps.App.Basic

/-!
What is published about an app for its users to see.
-/

namespace CompositeApps

inductive EventKind where
  | normal
  | warning
  deriving DecidableEq, Repr, Inhabited

namespace EventKind

def name : EventKind → String
  | normal => "Normal"
  | warning => "Warning"

def ofName? (name : String) : Option EventKind :=
  [normal, warning].find? (·.name = name)

end EventKind

structure Event where
  kind : EventKind
  reason : String
  note : String
  deriving DecidableEq, Repr, Inhabited

namespace Event

def invalidSpec (note : String) : Event :=
  ⟨.warning, "ValidationError", note⟩

def applyFailed (note : String) : Event :=
  ⟨.warning, "ApplyError", note⟩

def observeFailed (note : String) : Event :=
  ⟨.warning, "UpdateStatusError", note⟩

def reconciled (note : String) : Event :=
  ⟨.normal, "Reconciled", note⟩

end Event

end CompositeApps
