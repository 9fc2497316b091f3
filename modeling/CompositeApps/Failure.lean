/-!
How things fail: a computation that aborts, a call to the store, the work on one object, and a whole
pass.
-/

namespace CompositeApps

/-- Why a computation ended with a message instead of a value. Aborts are no ordinary errors:
nothing but the reconciler itself recovers from one. -/
structure Abort where
  message : String
  deriving DecidableEq, Repr, Inhabited

abbrev Aborting (α : Type) := Except Abort α

inductive StoreError where
  | notFound
  | conflict (reason : String)
  | api (code : Nat) (reason : String)
  /-- An object could not be written or read. -/
  | malformed (reason : String)
  /-- The call did not reach the server, or its answer did not come back. -/
  | client (reason : String)
  deriving DecidableEq, Repr

namespace StoreError

def message : StoreError → String
  | notFound => "object not found"
  | conflict reason => "conflict: " ++ reason
  | api code reason => "api error " ++ toString code ++ ": " ++ reason
  | malformed reason => "serialization failed: " ++ reason
  | client reason => "client error: " ++ reason

end StoreError

inductive ApplyError where
  | store (kind name : String) (cause : StoreError)
  /-- The app has no uid yet, so that nothing can be owned by it. -/
  | ownerReference (kind name owner : String)
  /-- The object is wanted, but an earlier one of its name is not gone yet. -/
  | terminating (kind name : String)
  deriving DecidableEq, Repr

namespace ApplyError

def kind : ApplyError → String
  | store kind _ _ | ownerReference kind _ _ | terminating kind _ => kind

def message : ApplyError → String
  | store kind name cause => kind ++ " " ++ name ++ ": " ++ cause.message
  | ownerReference kind name owner =>
    kind ++ " " ++ name ++ ": owner " ++ owner ++ " has no uid, cannot set owner reference"
  | terminating kind name => kind ++ " " ++ name ++ ": still terminating"

/-- A race was lost against another writer or against the removal of the object; the next pass
will settle it. -/
def isRetryable : ApplyError → Bool
  | store _ _ (.conflict _) | terminating _ _ => true
  | store _ _ _ | ownerReference _ _ _ => false

end ApplyError

inductive PassError where
  | store (cause : StoreError)
  /-- What has to run before the app may go has failed. -/
  | hook (reason : String)
  | aborted (reason : String)
  deriving DecidableEq, Repr

namespace PassError

def message : PassError → String
  | store cause => "store error: " ++ cause.message
  | hook reason => "pre-delete hook failed: " ++ reason
  | aborted reason => "reconcile pass panicked: " ++ reason

def label : PassError → String
  | aborted _ => "panic"
  | store _ | hook _ => "error"

end PassError

end CompositeApps
