import CompositeApps.Api.Path
import CompositeApps.Http.Message
import CompositeApps.Json.Printer
import CompositeApps.Text.Basic

/-!
An API server in memory, for trying out a controller. Its apps are fixed; every other object is
what was last written under its path. Nothing is checked, but requests can be made to fail.
-/

namespace CompositeApps

structure RequestFault where
  method : String
  pathPart : String
  status : Nat
  message : String
  reason : String
  /-- How many requests will fail; all of them where it is not set. -/
  times : Option Nat := none
  deriving DecidableEq, Repr, Inhabited

namespace RequestFault

def strikes (f : RequestFault) (r : HttpRequest) : Bool :=
  f.method = r.method.name && Text.occursIn f.pathPart.toList r.target.path.toList &&
    f.times ≠ some 0

def used (f : RequestFault) : RequestFault :=
  { f with times := f.times.map (· - 1) }

def statusBody (code : Nat) (message reason : String) : Json :=
  Json.ofFields [
    ("apiVersion", .str "v1"), ("kind", .str "Status"), ("status", .str "Failure"),
    ("code", .int code), ("message", .str message), ("reason", .str reason)]

def response (f : RequestFault) : HttpResponse :=
  ⟨f.status, (statusBody f.status f.message f.reason).render⟩

def strike? (r : HttpRequest) : List RequestFault → Option (RequestFault × List RequestFault)
  | [] => none
  | f :: rest =>
    if f.strikes r then some (f, f.used :: rest)
    else (strike? r rest).map fun (hit, rest) => (hit, f :: rest)

end RequestFault

structure ApiServer where
  /-- The apps that a list of them shows. -/
  apps : List Json := []
  /-- The other objects by their paths. -/
  objects : Dict Json := ∅
  version : Nat := 0
  faults : List RequestFault := []
  deriving Inhabited

namespace ApiServer

def answer (body : Json) : HttpResponse :=
  ⟨200, body.render⟩

def notFound : HttpResponse :=
  ⟨404, (RequestFault.statusBody 404 "not found" "NotFound").render⟩

def stamp (s : ApiServer) (object : Json) : Json :=
  match object with
  | .obj fields =>
    let metadata := match Json.lookup "metadata" fields with
      | some (.obj entries) => entries
      | _ => []
    let version := Json.str (toString (s.version + 1))
    .obj (Json.insertField "metadata" (.obj (Json.insertField "resourceVersion" version metadata))
      fields)
  | other => other

def store (s : ApiServer) (path : String) (object : Json) : HttpResponse × ApiServer :=
  let stored := s.stamp object
  (answer stored, { s with objects := s.objects.insert path stored, version := s.version + 1 })

/-- The path of an object: a write of its status goes to a path of its own below it. -/
def mainPath (path : String) : String :=
  let tail := "/status".toList.reverse
  let reversed := path.toList.reverse
  if tail.isPrefixOf reversed then String.ofList (reversed.drop tail.length).reverse else path

def memberPath (collection : String) (object : Json) : String :=
  let name := ((object.field? "metadata").bind (·.field? "name")).bind Json.str?
  collection ++ "/" ++ name.getD ""

def isAppCollection (path : String) : Bool :=
  ("/" ++ Kind.app.plural).toList.reverse.isPrefixOf path.toList.reverse

def list (items : List Json) : Json :=
  Json.ofFields [
    ("apiVersion", .str Kind.app.apiVersion), ("kind", .str (Kind.app.name ++ "List")),
    ("metadata", .obj []), ("items", .arr items)]

def serve (r : HttpRequest) (s : ApiServer) : HttpResponse × ApiServer :=
  let path := r.target.path
  let body := r.body.getD .null
  match r.method with
  | .get =>
    if isAppCollection path then (answer (list s.apps), s)
    else match s.objects[path]? with
      | some object => (answer object, s)
      | none => (notFound, s)
  | .post => s.store (memberPath path body) body
  | .put | .patch => s.store (mainPath path) body
  | .delete => (answer (Json.ofFields [("kind", .str "Status"), ("status", .str "Success")]),
      { s with objects := s.objects.erase path })

def respond (r : HttpRequest) (s : ApiServer) : HttpResponse × ApiServer :=
  match RequestFault.strike? r s.faults with
  | some (fault, faults) => (fault.response, { s with faults })
  | none => s.serve r

end ApiServer

end CompositeApps
