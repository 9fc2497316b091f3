import CompositeApps.Api.Client
import CompositeApps.Reconcile.Event

/-!
Publishing events through the API. An event that was published before is not published again: the
first one is kept, and told to be one of a series that grows. Delivery is best effort.
-/

namespace CompositeApps

structure ObjectReference where
  apiVersion : String
  kind : String
  name : Option String := none
  namespaceName : Option String := none
  uid : Option String := none
  deriving DecidableEq, Repr, Inhabited

namespace ObjectReference

def ofApp (app : CompositeApp) : ObjectReference :=
  { apiVersion := CompositeApp.apiVersion
    kind := Kind.app.name
    name := app.metadata.name
    namespaceName := app.metadata.namespaceName
    uid := app.metadata.uid }

def toJson (r : ObjectReference) : Json :=
  Json.ofOptionalFields [
    ("apiVersion", some (.str r.apiVersion)), ("kind", some (.str r.kind)),
    ("name", r.name.map .str), ("namespace", r.namespaceName.map .str), ("uid", r.uid.map .str)]

end ObjectReference

/-- Who publishes: a controller, and the one of its instances that speaks. -/
structure Reporter where
  controller : String
  speaker : String
  deriving DecidableEq, Repr, Inhabited

def Reporter.ofHost (controller : String) (host : Option String) : Reporter :=
  ⟨controller, host.getD controller⟩

structure EventSeries where
  count : Nat
  lastSeen : Timestamp
  deriving DecidableEq, Repr

structure PublishedEvent where
  /-- The name under which the event is stored. -/
  name : String
  reporter : Reporter
  regarding : ObjectReference
  event : Event
  firstSeen : Timestamp
  series : Option EventSeries := none
  deriving DecidableEq, Repr

namespace PublishedEvent

/-- Two events that differ in nothing but their notes are of one series. -/
def sameSeries (e : PublishedEvent) (reporter : Reporter) (regarding : ObjectReference)
    (event : Event) : Bool :=
  e.reporter = reporter && e.regarding = regarding && e.event.kind = event.kind &&
    e.event.reason = event.reason

def again (e : PublishedEvent) (now : Timestamp) : PublishedEvent :=
  { e with series := some ⟨(e.series.map (·.count)).getD 1 + 1, now⟩ }

def toJson (e : PublishedEvent) : Json :=
  Json.ofOptionalFields [
    ("action", some (.str "Reconcile")),
    ("apiVersion", some (.str "events.k8s.io/v1")),
    ("eventTime", some (.str e.firstSeen.text)),
    ("kind", some (.str "Event")),
    ("metadata", some (Json.ofOptionalFields [
      ("name", some (.str e.name)), ("namespace", e.regarding.namespaceName.map .str)])),
    ("note", some (.str e.event.note)),
    ("reason", some (.str e.event.reason)),
    ("regarding", some e.regarding.toJson),
    ("reportingController", some (.str e.reporter.controller)),
    ("reportingInstance", some (.str e.reporter.speaker)),
    ("series", e.series.map fun s => Json.ofFields [
      ("count", .int s.count), ("lastObservedTime", .str s.lastSeen.text)]),
    ("type", some (.str e.event.kind.name))]

def root : String := "/apis/events.k8s.io/v1"

def collectionPath (r : ObjectReference) : String :=
  root ++ "/namespaces/" ++ r.namespaceName.getD "default" ++ "/events"

/-- What is sent: a new event as a whole, one that was seen before as a change to the first one. -/
def request (e : PublishedEvent) : Except StoreError HttpRequest :=
  match e.series with
  | none => ApiClient.build .post (collectionPath e.regarding ++ "?") (some ApiClient.jsonType)
      (some e.toJson)
  | some _ => ApiClient.build .patch (collectionPath e.regarding ++ "/" ++ e.name ++ "?")
      (some "application/merge-patch+json") (some e.toJson)

end PublishedEvent

structure Recorder where
  reporter : Reporter
  /-- The first event of each series, the latest series first. -/
  known : List PublishedEvent := []
  /-- How many events there were. -/
  serial : Nat := 0
  deriving DecidableEq, Inhabited

namespace Recorder

def next (r : Recorder) (regarding : ObjectReference) (event : Event) (now : Timestamp) :
    PublishedEvent :=
  match r.known.find? (·.sameSeries r.reporter regarding event) with
  | some e => e.again now
  | none =>
    { name := regarding.name.getD r.reporter.controller ++ "." ++ toString r.serial
      reporter := r.reporter
      regarding
      event
      firstSeen := now }

def keep (r : Recorder) (e : PublishedEvent) : Recorder :=
  let others := r.known.filter fun k => !k.sameSeries e.reporter e.regarding e.event
  { r with known := e :: others }

/-- Publishes an event about an app. If it is not taken, it is as if it had never been. -/
def publish {σ : Type} (t : Transport σ) (now : Timestamp) (app : CompositeApp) (event : Event)
    (r : Recorder) (s : σ) : Recorder × σ :=
  let e := r.next (.ofApp app) event now
  let r := { r with serial := r.serial + 1 }
  match e.request with
  | .error _ => (r, s)
  | .ok sent =>
    match t sent s with
    | (.ok response, s) => (if response.isFailure then r else r.keep e, s)
    | (.error _, s) => (r, s)

end Recorder

end CompositeApps
