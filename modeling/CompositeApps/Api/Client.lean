import CompositeApps.Api.Path
import CompositeApps.Cluster.Call
import CompositeApps.Http.Message
import CompositeApps.Json.Parser
import CompositeApps.Text.Basic

/-!
A store behind the API: what is sent for a call, and what its answer means.
-/

namespace CompositeApps

structure ApiFailure where
  code : Nat
  reason : String
  message : String
  deriving DecidableEq, Repr, Inhabited

namespace ApiFailure

def decode : Decoder ApiFailure :=
  Fields.record "ErrorResponse" (
    (fun _ message reason code => ⟨code, reason, message⟩)
      <$> Fields.required "status" Decoder.text
      <*> Fields.withDefault "message" "" Decoder.text
      <*> Fields.withDefault "reason" "" Decoder.text
      <*> Fields.required "code" Decoder.uint16)

/-- The failure that a response tells; one that is not told in the API's own words is known by its
status alone. -/
def ofResponse (r : HttpResponse) : ApiFailure :=
  match (Json.parse? r.body).map decode with
  | some (.ok failure) => failure
  | _ => ⟨r.status, "Failed to parse error data", Text.quoted r.body⟩

def toStoreError (f : ApiFailure) : StoreError :=
  if f.code = 404 then .notFound
  else if f.code = 409 then .conflict f.message
  else .api f.code f.message

end ApiFailure

namespace ApiClient

def fieldManager : String := "composite-operator"

def jsonType : String := "application/json"

def unsent (reason : String) : StoreError :=
  .client ("Failed to build request: " ++ reason)

def build (method : HttpMethod) (target : String) (contentType : Option String)
    (body : Option Json) : Except StoreError HttpRequest :=
  match HttpTarget.parse? target with
  | some t => .ok ⟨method, t, contentType, body⟩
  | none => .error (unsent "failed to build request: invalid uri character")

/-- A request for one object has to name it. -/
def checkName (name : String) : Except StoreError Unit :=
  if name = "" then .error (unsent "failed to validate request: A non-empty name is required")
  else .ok ()

def writeOptions : String := "?&fieldManager=" ++ fieldManager

def request (c : Call) : Except StoreError HttpRequest :=
  match c with
  | .get key => do
    checkName key.name
    build .get key.path none none
  | .create r => build .post (r.key.collectionPath ++ writeOptions) (some jsonType) (some r.toJson)
  | .replace r => do
    checkName r.key.name
    build .put (r.key.path ++ writeOptions) (some jsonType) (some r.toJson)
  | .replaceStatus r => do
    checkName r.key.name
    build .put (r.key.path ++ "/status" ++ writeOptions) (some jsonType) (some r.toJson)
  | .delete key => do
    checkName key.name
    build .delete (key.path ++ "?") (some jsonType)
      (some (.obj [("propagationPolicy", .str "Background")]))

/-- What a failure means for a call: what is not there cannot be found, and is as good as
deleted. -/
def replyOfFailure (c : Call) (f : ApiFailure) : Reply :=
  match c with
  | .get _ => if f.reason = "NotFound" then .ok none else .error f.toStoreError
  | .delete _ => if f.code = 404 then .ok none else .error f.toStoreError
  | .create _ | .replace _ | .replaceStatus _ => .error f.toStoreError

def content (body : String) : Except StoreError Json :=
  match Json.parse? body with
  | some v => .ok v
  | none => .error (.malformed "not a JSON text")

def object (kind : Kind) (v : Json) : Except StoreError Resource :=
  (Resource.decode kind v).mapError fun e => .malformed e.message

def reply (c : Call) (r : HttpResponse) : Reply :=
  if r.isFailure then replyOfFailure c (.ofResponse r)
  else do
    let v ← content r.body
    match c with
    | .delete key =>
      if v.field? "kind" = some (.str "Status") then return none
      else
        let _ ← object key.kind v
        return none
    | _ => some <$> object c.key.kind v

def perform {σ : Type} (t : Transport σ) (c : Call) (s : σ) : Reply × σ :=
  match request c with
  | .error e => (.error e, s)
  | .ok sent =>
    match t sent s with
    | (.ok response, s) => (reply c response, s)
    | (.error reason, s) => (.error (.client ("ServiceError: " ++ reason)), s)

end ApiClient

end CompositeApps
