import CompositeApps.Json.Decoder

/-!
How requests to an app are limited, retried and made to fail on purpose. Spans of time are kept as
they were written.
-/

namespace CompositeApps

structure RetrySpec where
  attempts : Int
  perTryTimeout : Option String := none
  retryOn : Option String := none
  deriving DecidableEq, Repr, Inhabited

namespace RetrySpec

def decode : Decoder RetrySpec :=
  Fields.record "RetrySpec" (
    RetrySpec.mk
      <$> Fields.required "attempts" Decoder.int32
      <*> Fields.optional "perTryTimeout" Decoder.text
      <*> Fields.optional "retryOn" Decoder.text)

def toJson (r : RetrySpec) : Json :=
  Json.ofOptionalFields [
    ("attempts", some (.int r.attempts)),
    ("perTryTimeout", r.perTryTimeout.map .str),
    ("retryOn", r.retryOn.map .str)]

end RetrySpec

structure DelaySpec where
  percent : Binary64
  delay : String
  deriving DecidableEq, Repr, Inhabited

namespace DelaySpec

def decode : Decoder DelaySpec :=
  Fields.record "DelaySpec" (
    DelaySpec.mk
      <$> Fields.required "percent" Decoder.binary64
      <*> Fields.required "delay" Decoder.text)

def toJson (d : DelaySpec) : Json :=
  .obj [("delay", .str d.delay), ("percent", .ofBinary64 d.percent)]

end DelaySpec

structure AbortSpec where
  percent : Binary64
  httpStatus : Int
  deriving DecidableEq, Repr, Inhabited

namespace AbortSpec

def decode : Decoder AbortSpec :=
  Fields.record "AbortSpec" (
    AbortSpec.mk
      <$> Fields.required "percent" Decoder.binary64
      <*> Fields.required "httpStatus" Decoder.int32)

def toJson (a : AbortSpec) : Json :=
  .obj [("httpStatus", .int a.httpStatus), ("percent", .ofBinary64 a.percent)]

end AbortSpec

structure FaultSpec where
  delay : Option DelaySpec := none
  abort : Option AbortSpec := none
  deriving DecidableEq, Repr, Inhabited

namespace FaultSpec

def decode : Decoder FaultSpec :=
  Fields.record "FaultSpec" (
    FaultSpec.mk
      <$> Fields.optional "delay" DelaySpec.decode
      <*> Fields.optional "abort" AbortSpec.decode)

def toJson (f : FaultSpec) : Json :=
  Json.ofOptionalFields [
    ("abort", f.abort.map AbortSpec.toJson), ("delay", f.delay.map DelaySpec.toJson)]

def isFinite (f : FaultSpec) : Bool :=
  f.delay.all (·.percent.isFinite) && f.abort.all (·.percent.isFinite)

end FaultSpec

structure OutlierSpec where
  consecutiveErrors : Nat
  interval : Option String := none
  ejectionTime : Option String := none
  maxEjectionPercent : Int := 0
  minHealthPercent : Int := 0
  deriving DecidableEq, Repr, Inhabited

namespace OutlierSpec

def decode : Decoder OutlierSpec :=
  Fields.record "OutlierSpec" (
    OutlierSpec.mk
      <$> Fields.required "consecutiveErrors" Decoder.uint32
      <*> Fields.optional "interval" Decoder.text
      <*> Fields.optional "ejectionTime" Decoder.text
      <*> Fields.withDefault "maxEjectionPercent" 0 Decoder.int32
      <*> Fields.withDefault "minHealthPercent" 0 Decoder.int32)

def toJson (o : OutlierSpec) : Json :=
  Json.ofOptionalFields [
    ("consecutiveErrors", some (.int o.consecutiveErrors)),
    ("ejectionTime", o.ejectionTime.map .str),
    ("interval", o.interval.map .str),
    ("maxEjectionPercent", some (.int o.maxEjectionPercent)),
    ("minHealthPercent", some (.int o.minHealthPercent))]

end OutlierSpec

structure TrafficPolicySpec where
  maxRequests : Option Int := none
  timeout : Option String := none
  retries : Option RetrySpec := none
  fault : Option FaultSpec := none
  outlierDetection : Option OutlierSpec := none
  deriving DecidableEq, Repr, Inhabited

namespace TrafficPolicySpec

def decode : Decoder TrafficPolicySpec :=
  Fields.record "TrafficPolicySpec" (
    TrafficPolicySpec.mk
      <$> Fields.optional "maxRequests" Decoder.int32
      <*> Fields.optional "timeout" Decoder.text
      <*> Fields.optional "retries" RetrySpec.decode
      <*> Fields.optional "fault" FaultSpec.decode
      <*> Fields.optional "outlierDetection" OutlierSpec.decode)

def toJson (p : TrafficPolicySpec) : Json :=
  Json.ofOptionalFields [
    ("fault", p.fault.map FaultSpec.toJson),
    ("maxRequests", p.maxRequests.map .int),
    ("outlierDetection", p.outlierDetection.map OutlierSpec.toJson),
    ("retries", p.retries.map RetrySpec.toJson),
    ("timeout", p.timeout.map .str)]

def isFinite (p : TrafficPolicySpec) : Bool :=
  p.fault.all (·.isFinite)

end TrafficPolicySpec

end CompositeApps
