import CompositeApps.Http.Target
import CompositeApps.Json.Basic

/-!
Requests, responses, and what carries one to the other.
-/

namespace CompositeApps

inductive HttpMethod where
  | get
  | post
  | put
  | patch
  | delete
  deriving DecidableEq, Repr, Inhabited

def HttpMethod.name : HttpMethod → String
  | get => "GET"
  | post => "POST"
  | put => "PUT"
  | patch => "PATCH"
  | delete => "DELETE"

structure HttpRequest where
  method : HttpMethod
  target : HttpTarget
  contentType : Option String := none
  body : Option Json := none
  deriving DecidableEq, Inhabited

structure HttpResponse where
  status : Nat
  body : String
  deriving DecidableEq, Repr, Inhabited

def HttpResponse.isFailure (r : HttpResponse) : Bool :=
  400 ≤ r.status && r.status < 600

/-- Answers a request, or tells why no answer came back. -/
abbrev Transport (σ : Type) := HttpRequest → σ → Except String HttpResponse × σ

end CompositeApps
