import CompositeApps.Manifest.VirtualService

/-!
Destination rules: the subsets of a host's pods, and how traffic to them is balanced and limited.
-/

namespace CompositeApps

structure HttpPool where
  http1MaxPendingRequests : Option Int := none
  http2MaxRequests : Option Int := none
  deriving DecidableEq, Repr, Inhabited

namespace HttpPool

def decode : Decoder HttpPool :=
  Fields.record "HttpPoolSettings" (
    HttpPool.mk
      <$> Fields.optional "http1MaxPendingRequests" Decoder.int32
      <*> Fields.optional "http2MaxRequests" Decoder.int32)

def toJson (p : HttpPool) : Json :=
  Json.ofOptionalFields [
    ("http1MaxPendingRequests", p.http1MaxPendingRequests.map .int),
    ("http2MaxRequests", p.http2MaxRequests.map .int)]

end HttpPool

structure ConnectionPool where
  http : Option HttpPool := none
  deriving DecidableEq, Repr, Inhabited

namespace ConnectionPool

def decode : Decoder ConnectionPool :=
  Fields.record "ConnectionPoolSettings" (
    ConnectionPool.mk <$> Fields.optional "http" HttpPool.decode)

def toJson (p : ConnectionPool) : Json :=
  Json.ofOptionalFields [("http", p.http.map HttpPool.toJson)]

end ConnectionPool

structure LoadBalancer where
  simple : Option String := none
  deriving DecidableEq, Repr, Inhabited

namespace LoadBalancer

def decode : Decoder LoadBalancer :=
  Fields.record "LoadBalancerSettings" (
    LoadBalancer.mk <$> Fields.optional "simple" Decoder.text)

def toJson (b : LoadBalancer) : Json :=
  Json.ofOptionalFields [("simple", b.simple.map .str)]

end LoadBalancer

/-- When a pod that fails is taken out of the rotation, and for how long. -/
structure OutlierDetection where
  baseEjectionTime : Option String := none
  consecutive5xxErrors : Option Nat := none
  interval : Option String := none
  maxEjectionPercent : Option Int := none
  minHealthPercent : Option Int := none
  deriving DecidableEq, Repr, Inhabited

namespace OutlierDetection

def decode : Decoder OutlierDetection :=
  Fields.record "OutlierDetection" (
    (fun errors interval ejection maxEjection minHealth =>
        OutlierDetection.mk ejection errors interval maxEjection minHealth)
      <$> Fields.optional "consecutive5xxErrors" Decoder.uint32
      <*> Fields.optional "interval" Decoder.text
      <*> Fields.optional "baseEjectionTime" Decoder.text
      <*> Fields.optional "maxEjectionPercent" Decoder.int32
      <*> Fields.optional "minHealthPercent" Decoder.int32)

def toJson (o : OutlierDetection) : Json :=
  Json.ofOptionalFields [
    ("baseEjectionTime", o.baseEjectionTime.map .str),
    ("consecutive5xxErrors", o.consecutive5xxErrors.map fun n => .int n),
    ("interval", o.interval.map .str),
    ("maxEjectionPercent", o.maxEjectionPercent.map .int),
    ("minHealthPercent", o.minHealthPercent.map .int)]

end OutlierDetection

structure TrafficPolicy where
  connectionPool : Option ConnectionPool := none
  loadBalancer : Option LoadBalancer := none
  outlierDetection : Option OutlierDetection := none
  deriving DecidableEq, Repr, Inhabited

namespace TrafficPolicy

def decode : Decoder TrafficPolicy :=
  Fields.record "TrafficPolicy" (
    (fun balancer pool outliers => TrafficPolicy.mk pool balancer outliers)
      <$> Fields.optional "loadBalancer" LoadBalancer.decode
      <*> Fields.optional "connectionPool" ConnectionPool.decode
      <*> Fields.optional "outlierDetection" OutlierDetection.decode)

def toJson (p : TrafficPolicy) : Json :=
  Json.ofOptionalFields [
    ("connectionPool", p.connectionPool.map ConnectionPool.toJson),
    ("loadBalancer", p.loadBalancer.map LoadBalancer.toJson),
    ("outlierDetection", p.outlierDetection.map OutlierDetection.toJson)]

end TrafficPolicy

structure Subset where
  labels : Labels := ∅
  name : String
  deriving DecidableEq, Inhabited

namespace Subset

def decode : Decoder Subset :=
  Fields.record "Subset" (
    (fun name labels => Subset.mk labels name)
      <$> Fields.required "name" Decoder.text
      <*> Fields.withDefault "labels" ∅ (Decoder.dict Decoder.text))

def toJson (s : Subset) : Json :=
  .obj [("labels", Json.ofTexts s.labels), ("name", .str s.name)]

end Subset

structure DestinationRuleSpec where
  host : String
  subsets : List Subset := []
  trafficPolicy : Option TrafficPolicy := none
  deriving DecidableEq, Inhabited

namespace DestinationRuleSpec

def decode : Decoder DestinationRuleSpec :=
  Fields.record "DestinationRuleSpec" (
    (fun host policy subsets => DestinationRuleSpec.mk host subsets policy)
      <$> Fields.required "host" Decoder.text
      <*> Fields.optional "trafficPolicy" TrafficPolicy.decode
      <*> Fields.withDefault "subsets" [] (Decoder.list Subset.decode))

def toJson (s : DestinationRuleSpec) : Json :=
  Json.ofOptionalFields [
    ("host", some (.str s.host)),
    ("subsets", unlessEmpty (·.isEmpty) (Json.ofList Subset.toJson) s.subsets),
    ("trafficPolicy", s.trafficPolicy.map TrafficPolicy.toJson)]

end DestinationRuleSpec

structure DestinationRule where
  metadata : ObjectMeta
  spec : DestinationRuleSpec
  deriving DecidableEq, Inhabited

namespace DestinationRule

def decode : Decoder DestinationRule :=
  Fields.record "DestinationRule" (
    DestinationRule.mk
      <$> Fields.required "metadata" ObjectMeta.decode
      <*> Fields.required "spec" DestinationRuleSpec.decode)

def toJson (r : DestinationRule) : Json :=
  .obj [
    ("apiVersion", .str "networking.istio.io/v1beta1"), ("kind", .str "DestinationRule"),
    ("metadata", r.metadata.toJson), ("spec", r.spec.toJson)]

end DestinationRule

end CompositeApps
