import CompositeApps.Manifest.Metadata

/-!
Virtual services: which request goes where in the mesh. The first rule with a match block that
holds decides.
-/

namespace CompositeApps

/-- A condition on a text, written as an object with the kind of the condition as its field. -/
inductive TextMatch where
  | exact (text : String)
  | leading (text : String)
  | regex (text : String)
  deriving DecidableEq, Repr, Inhabited

namespace TextMatch

def decode : Decoder TextMatch :=
  Decoder.tagged [("exact", exact), ("prefix", leading), ("regex", regex)] Decoder.text

def toJson : TextMatch → Json
  | exact s => .obj [("exact", .str s)]
  | leading s => .obj [("prefix", .str s)]
  | regex s => .obj [("regex", .str s)]

end TextMatch

structure HttpMatch where
  headers : Dict TextMatch := ∅
  sourceLabels : Labels := ∅
  sourceNamespace : Option String := none
  uri : Option TextMatch := none
  deriving DecidableEq, Inhabited

def unlessEmpty {α : Type} (isEmpty : α → Bool) (write : α → Json) (a : α) : Option Json :=
  if isEmpty a then none else some (write a)

namespace HttpMatch

def decode : Decoder HttpMatch :=
  Fields.record "HttpMatchRequest" (
    (fun uri headers sourceLabels sourceNamespace =>
        HttpMatch.mk headers sourceLabels sourceNamespace uri)
      <$> Fields.optional "uri" TextMatch.decode
      <*> Fields.withDefault "headers" ∅ (Decoder.dict TextMatch.decode)
      <*> Fields.withDefault "sourceLabels" ∅ (Decoder.dict Decoder.text)
      <*> Fields.optional "sourceNamespace" Decoder.text)

def toJson (m : HttpMatch) : Json :=
  Json.ofOptionalFields [
    ("headers", unlessEmpty (·.isEmpty) (Json.ofDict TextMatch.toJson) m.headers),
    ("sourceLabels", unlessEmpty (·.isEmpty) Json.ofTexts m.sourceLabels),
    ("sourceNamespace", m.sourceNamespace.map .str),
    ("uri", m.uri.map TextMatch.toJson)]

end HttpMatch

structure HttpRewrite where
  uri : String
  deriving DecidableEq, Repr, Inhabited

namespace HttpRewrite

def decode : Decoder HttpRewrite :=
  Fields.record "HttpRewrite" (HttpRewrite.mk <$> Fields.required "uri" Decoder.text)

def toJson (r : HttpRewrite) : Json :=
  .obj [("uri", .str r.uri)]

end HttpRewrite

structure Destination where
  host : String
  port : Option Nat := none
  subset : Option String := none
  deriving DecidableEq, Repr, Inhabited

namespace Destination

def portNumber : Decoder Nat :=
  Fields.record "PortSelector" (id <$> Fields.required "number" Decoder.uint32)

def decode : Decoder Destination :=
  Fields.record "Destination" (
    (fun host subset port => Destination.mk host port subset)
      <$> Fields.required "host" Decoder.text
      <*> Fields.optional "subset" Decoder.text
      <*> Fields.optional "port" portNumber)

def toJson (d : Destination) : Json :=
  Json.ofOptionalFields [
    ("host", some (.str d.host)),
    ("port", d.port.map fun n => .obj [("number", .int n)]),
    ("subset", d.subset.map .str)]

end Destination

structure WeightedDestination where
  destination : Destination
  weight : Int
  deriving DecidableEq, Repr, Inhabited

namespace WeightedDestination

def decode : Decoder WeightedDestination :=
  Fields.record "HttpRouteDestination" (
    WeightedDestination.mk
      <$> Fields.required "destination" Destination.decode
      <*> Fields.withDefault "weight" 0 Decoder.int32)

def toJson (d : WeightedDestination) : Json :=
  .obj [("destination", d.destination.toJson), ("weight", .int d.weight)]

end WeightedDestination

structure HttpRetry where
  attempts : Int
  perTryTimeout : Option String := none
  retryOn : Option String := none
  deriving DecidableEq, Repr, Inhabited

namespace HttpRetry

def decode : Decoder HttpRetry :=
  Fields.record "HttpRetry" (
    HttpRetry.mk
      <$> Fields.required "attempts" Decoder.int32
      <*> Fields.optional "perTryTimeout" Decoder.text
      <*> Fields.optional "retryOn" Decoder.text)

def toJson (r : HttpRetry) : Json :=
  Json.ofOptionalFields [
    ("attempts", some (.int r.attempts)),
    ("perTryTimeout", r.perTryTimeout.map .str),
    ("retryOn", r.retryOn.map .str)]

end HttpRetry

structure Percent where
  value : Binary64
  deriving DecidableEq, Repr, Inhabited

namespace Percent

def decode : Decoder Percent :=
  Fields.record "Percent" (Percent.mk <$> Fields.required "value" Decoder.binary64)

def toJson (p : Percent) : Json :=
  .obj [("value", .ofBinary64 p.value)]

/-- Both zeros stand for the same share. -/
def canonical (p : Percent) : Percent :=
  ⟨p.value.canonicalZero⟩

end Percent

structure FaultDelay where
  fixedDelay : String
  percentage : Option Percent := none
  deriving DecidableEq, Repr, Inhabited

namespace FaultDelay

def decode : Decoder FaultDelay :=
  Fields.record "FaultDelay" (
    (fun percentage fixedDelay => FaultDelay.mk fixedDelay percentage)
      <$> Fields.optional "percentage" Percent.decode
      <*> Fields.required "fixedDelay" Decoder.text)

def toJson (d : FaultDelay) : Json :=
  Json.ofOptionalFields [
    ("fixedDelay", some (.str d.fixedDelay)), ("percentage", d.percentage.map Percent.toJson)]

end FaultDelay

structure FaultAbort where
  httpStatus : Int
  percentage : Option Percent := none
  deriving DecidableEq, Repr, Inhabited

namespace FaultAbort

def decode : Decoder FaultAbort :=
  Fields.record "FaultAbort" (
    (fun percentage httpStatus => FaultAbort.mk httpStatus percentage)
      <$> Fields.optional "percentage" Percent.decode
      <*> Fields.required "httpStatus" Decoder.int32)

def toJson (a : FaultAbort) : Json :=
  Json.ofOptionalFields [
    ("httpStatus", some (.int a.httpStatus)), ("percentage", a.percentage.map Percent.toJson)]

end FaultAbort

structure HttpFault where
  abort : Option FaultAbort := none
  delay : Option FaultDelay := none
  deriving DecidableEq, Repr, Inhabited

namespace HttpFault

def decode : Decoder HttpFault :=
  Fields.record "HttpFaultInjection" (
    (fun delay abort => HttpFault.mk abort delay)
      <$> Fields.optional "delay" FaultDelay.decode
      <*> Fields.optional "abort" FaultAbort.decode)

def toJson (f : HttpFault) : Json :=
  Json.ofOptionalFields [
    ("abort", f.abort.map FaultAbort.toJson), ("delay", f.delay.map FaultDelay.toJson)]

def isFinite (f : HttpFault) : Bool :=
  f.abort.all (·.percentage.all (·.value.isFinite)) &&
    f.delay.all (·.percentage.all (·.value.isFinite))

def canonical (f : HttpFault) : HttpFault where
  abort := f.abort.map fun a => { a with percentage := a.percentage.map Percent.canonical }
  delay := f.delay.map fun d => { d with percentage := d.percentage.map Percent.canonical }

end HttpFault

structure CorsPolicy where
  allowCredentials : Option Bool := none
  allowHeaders : List String := []
  allowMethods : List String := []
  allowOrigins : List TextMatch := []
  exposeHeaders : List String := []
  maxAge : Option String := none
  deriving DecidableEq, Repr, Inhabited

namespace CorsPolicy

def decode : Decoder CorsPolicy :=
  Fields.record "CorsPolicy" (
    (fun origins methods headers exposed maxAge credentials =>
        CorsPolicy.mk credentials headers methods origins exposed maxAge)
      <$> Fields.withDefault "allowOrigins" [] (Decoder.list TextMatch.decode)
      <*> Fields.withDefault "allowMethods" [] (Decoder.list Decoder.text)
      <*> Fields.withDefault "allowHeaders" [] (Decoder.list Decoder.text)
      <*> Fields.withDefault "exposeHeaders" [] (Decoder.list Decoder.text)
      <*> Fields.optional "maxAge" Decoder.text
      <*> Fields.optional "allowCredentials" Decoder.boolean)

def toJson (c : CorsPolicy) : Json :=
  Json.ofOptionalFields [
    ("allowCredentials", c.allowCredentials.map .bool),
    ("allowHeaders", unlessEmpty (·.isEmpty) (Json.ofList .str) c.allowHeaders),
    ("allowMethods", unlessEmpty (·.isEmpty) (Json.ofList .str) c.allowMethods),
    ("allowOrigins", unlessEmpty (·.isEmpty) (Json.ofList TextMatch.toJson) c.allowOrigins),
    ("exposeHeaders", unlessEmpty (·.isEmpty) (Json.ofList .str) c.exposeHeaders),
    ("maxAge", c.maxAge.map .str)]

end CorsPolicy

/-- A rule: when one of its match blocks holds, the request goes to its destinations. -/
structure HttpRoute where
  blocks : List HttpMatch := []
  corsPolicy : Option CorsPolicy := none
  fault : Option HttpFault := none
  retries : Option HttpRetry := none
  rewrite : Option HttpRewrite := none
  route : List WeightedDestination := []
  timeout : Option String := none
  deriving DecidableEq, Inhabited

namespace HttpRoute

def decode : Decoder HttpRoute :=
  Fields.record "HttpRoute" (
    (fun blocks rewrite route timeout retries fault cors =>
        HttpRoute.mk blocks cors fault retries rewrite route timeout)
      <$> Fields.withDefault "match" [] (Decoder.list HttpMatch.decode)
      <*> Fields.optional "rewrite" HttpRewrite.decode
      <*> Fields.withDefault "route" [] (Decoder.list WeightedDestination.decode)
      <*> Fields.optional "timeout" Decoder.text
      <*> Fields.optional "retries" HttpRetry.decode
      <*> Fields.optional "fault" HttpFault.decode
      <*> Fields.optional "corsPolicy" CorsPolicy.decode)

def toJson (r : HttpRoute) : Json :=
  Json.ofOptionalFields [
    ("corsPolicy", r.corsPolicy.map CorsPolicy.toJson),
    ("fault", r.fault.map HttpFault.toJson),
    ("match", unlessEmpty (·.isEmpty) (Json.ofList HttpMatch.toJson) r.blocks),
    ("retries", r.retries.map HttpRetry.toJson),
    ("rewrite", r.rewrite.map HttpRewrite.toJson),
    ("route", unlessEmpty (·.isEmpty) (Json.ofList WeightedDestination.toJson) r.route),
    ("timeout", r.timeout.map .str)]

end HttpRoute

structure VirtualServiceSpec where
  gateways : List String := []
  hosts : List String := []
  http : List HttpRoute := []
  deriving DecidableEq, Inhabited

namespace VirtualServiceSpec

def decode : Decoder VirtualServiceSpec :=
  Fields.record "VirtualServiceSpec" (
    (fun hosts gateways http => VirtualServiceSpec.mk gateways hosts http)
      <$> Fields.withDefault "hosts" [] (Decoder.list Decoder.text)
      <*> Fields.withDefault "gateways" [] (Decoder.list Decoder.text)
      <*> Fields.withDefault "http" [] (Decoder.list HttpRoute.decode))

def toJson (s : VirtualServiceSpec) : Json :=
  Json.ofOptionalFields [
    ("gateways", unlessEmpty (·.isEmpty) (Json.ofList .str) s.gateways),
    ("hosts", unlessEmpty (·.isEmpty) (Json.ofList .str) s.hosts),
    ("http", unlessEmpty (·.isEmpty) (Json.ofList HttpRoute.toJson) s.http)]

def isFinite (s : VirtualServiceSpec) : Bool :=
  s.http.all fun r => r.fault.all (·.isFinite)

/-- The spec with one form for each share in percent, for comparison. -/
def canonical (s : VirtualServiceSpec) : VirtualServiceSpec :=
  { s with http := s.http.map fun r => { r with fault := r.fault.map HttpFault.canonical } }

end VirtualServiceSpec

structure VirtualService where
  metadata : ObjectMeta
  spec : VirtualServiceSpec
  deriving DecidableEq, Inhabited

namespace VirtualService

def decode : Decoder VirtualService :=
  Fields.record "VirtualService" (
    VirtualService.mk
      <$> Fields.required "metadata" ObjectMeta.decode
      <*> Fields.required "spec" VirtualServiceSpec.decode)

def toJson (v : VirtualService) : Json :=
  .obj [
    ("apiVersion", .str "networking.istio.io/v1beta1"), ("kind", .str "VirtualService"),
    ("metadata", v.metadata.toJson), ("spec", v.spec.toJson)]

end VirtualService

end CompositeApps
