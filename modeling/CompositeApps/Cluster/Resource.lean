import CompositeApps.Desired.Basic
import CompositeApps.Failure

/-!
Everything that a cluster stores: apps and the objects made for them.
-/

namespace CompositeApps

inductive Kind where
  | app
  | child (kind : ChildKind)
  deriving DecidableEq, Repr, Inhabited

namespace Kind

def name : Kind → String
  | app => "CompositeApp"
  | child k => k.name

def all : List Kind :=
  app :: ChildKind.all.map child

def ofName? (name : String) : Option Kind :=
  all.find? (·.name = name)

theorem name_injective {a b : Kind} (h : a.name = b.name) : a = b := by
  rcases a with _ | a <;> rcases b with _ | b
  · rfl
  · cases b <;> exact absurd h (by decide)
  · cases a <;> exact absurd h (by decide)
  · cases a <;> cases b <;> first | rfl | exact absurd h (by decide)

end Kind

inductive Resource where
  | app (a : CompositeApp)
  | child (c : Child)
  deriving DecidableEq, Inhabited

namespace Resource

def kind : Resource → Kind
  | app _ => .app
  | child c => .child c.kind

def metadata : Resource → ObjectMeta
  | app a => a.metadata
  | child c => c.metadata

def withMetadata (m : ObjectMeta) : Resource → Resource
  | app a => app { a with metadata := m }
  | child c => child (c.withMetadata m)

def mapMetadata (f : ObjectMeta → ObjectMeta) (r : Resource) : Resource :=
  r.withMetadata (f r.metadata)

def toJson : Resource → Json
  | app a => a.toJson
  | child c => c.toJson

def decode (kind : Kind) : Decoder Resource := fun v =>
  match kind with
  | .app => app <$> CompositeApp.decode v
  | .child k => child <$> Child.decode k v

def app? : Resource → Option CompositeApp
  | app a => some a
  | child _ => none

def child? : Resource → Option Child
  | app _ => none
  | child c => some c

def isFinite : Resource → Bool
  | app a => a.spec.isFinite
  | child c => c.isFinite

/-- An object as it is read from its written form. A number that is not finite is written as null,
and null is not read as a number. -/
def reread (r : Resource) : Except DecodeError Resource :=
  if r.isFinite then .ok r else .error (.wrongType .null "f64")

def readBack (r : Resource) : Except StoreError Resource :=
  r.reread.mapError fun e => .malformed e.message

/-- The object with the status of another one of its kind. Kinds without a status stay as they
are. -/
def withStatusOf (r source : Resource) : Resource :=
  match r, source with
  | app a, app s => app { a with status := s.status }
  | child (.deployment d), child (.deployment s) =>
    child (.deployment { d with status := s.status })
  | child (.service d), child (.service s) => child (.service { d with status := s.status })
  | child (.autoscaler d), child (.autoscaler s) =>
    child (.autoscaler { d with status := s.status })
  | r, _ => r

end Resource

structure ObjectKey where
  kind : Kind
  namespaceName : String
  name : String
  deriving DecidableEq, Repr, Inhabited

namespace ObjectKey

def order : ObjectKey → ObjectKey → Ordering :=
  compareLex (compareOn (·.kind.name))
    (compareLex (compareOn (·.namespaceName)) (compareOn (·.name)))

instance : Std.TransCmp order :=
  inferInstanceAs (Std.TransCmp (compareLex (compareOn fun k : ObjectKey => k.kind.name)
    (compareLex (compareOn fun k : ObjectKey => k.namespaceName)
      (compareOn fun k : ObjectKey => k.name))))

instance : Std.LawfulEqCmp order where
  eq_of_compare {a b} h := by
    simp only [order, compareLex, compareOn, Ordering.then_eq_eq, Std.compare_eq_iff_eq] at h
    obtain ⟨hkind, hnamespace, hname⟩ := h
    rcases a with ⟨ak, an, am⟩
    rcases b with ⟨bk, bn, bm⟩
    rw [show ak = bk from Kind.name_injective hkind, show an = bn from hnamespace,
      show am = bm from hname]

end ObjectKey

def Resource.key (r : Resource) : ObjectKey :=
  ⟨r.kind, r.metadata.namespaceOrDefault, r.metadata.displayName⟩

abbrev Objects := Std.ExtTreeMap ObjectKey Resource ObjectKey.order

end CompositeApps
