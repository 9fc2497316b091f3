import CompositeApps.Cluster.Resource
import CompositeApps.Failure

/-!
The calls that a store answers: point lookups, and writes of one object.
-/

namespace CompositeApps

inductive Verb where
  | get
  | create
  | replace
  | replaceStatus
  | delete
  deriving DecidableEq, Repr, Inhabited

namespace Verb

def all : List Verb :=
  [get, create, replace, replaceStatus, delete]

def name : Verb → String
  | get => "Get"
  | create => "Create"
  | replace => "Replace"
  | replaceStatus => "ReplaceStatus"
  | delete => "Delete"

def ofName? (name : String) : Option Verb :=
  all.find? (·.name = name)

def isWrite (v : Verb) : Bool :=
  v ≠ get

end Verb

inductive Call where
  | get (key : ObjectKey)
  | create (object : Resource)
  /-- Writes the object but for its status, if it is based on the stored version. -/
  | replace (object : Resource)
  /-- Writes the status alone, if the object is based on the stored version. -/
  | replaceStatus (object : Resource)
  /-- Deletes an object; one that is already gone is as good as deleted. -/
  | delete (key : ObjectKey)
  deriving DecidableEq, Inhabited

namespace Call

def verb : Call → Verb
  | get _ => .get
  | create _ => .create
  | replace _ => .replace
  | replaceStatus _ => .replaceStatus
  | delete _ => .delete

def key : Call → ObjectKey
  | get key | delete key => key
  | create r | replace r | replaceStatus r => r.key

end Call

/-- What a store answers: the object that was found or is stored now, or nothing. -/
abbrev Reply := Except StoreError (Option Resource)

def Reply.ofStored : Option Resource → Reply
  | none => .ok none
  | some r => some <$> r.readBack

end CompositeApps
