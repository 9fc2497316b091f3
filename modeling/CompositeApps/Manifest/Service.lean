import CompositeApps.Manifest.Metadata

/-!
Services: one stable address in front of the pods that a selector picks.
-/

namespace CompositeApps

structure ServicePort where
  appProtocol : Option String := none
  name : Option String := none
  nodePort : Option Int := none
  port : Int
  protocol : Option String := none
  targetPort : Option IntOrText := none
  deriving DecidableEq, Inhabited

namespace ServicePort

def decode : Decoder ServicePort :=
  Fields.object "ServicePort" (
    ServicePort.mk
      <$> Fields.optional "appProtocol" Decoder.text
      <*> Fields.optional "name" Decoder.text
      <*> Fields.optional "nodePort" Decoder.int32
      <*> Fields.orDefault "port" 0 Decoder.int32
      <*> Fields.optional "protocol" Decoder.text
      <*> Fields.optional "targetPort" IntOrText.decode)

def toJson (p : ServicePort) : Json :=
  Json.ofOptionalFields [
    ("appProtocol", p.appProtocol.map .str),
    ("name", p.name.map .str),
    ("nodePort", p.nodePort.map .int),
    ("port", some (.int p.port)),
    ("protocol", p.protocol.map .str),
    ("targetPort", p.targetPort.map IntOrText.toJson)]

end ServicePort

structure ServiceSpec where
  clusterIP : Option String := none
  clusterIPs : Option (List String) := none
  ports : Option (List ServicePort) := none
  selector : Option Labels := none
  sessionAffinity : Option String := none
  type : Option String := none
  extra : Extra := []
  deriving DecidableEq, Inhabited

namespace ServiceSpec

open Shape in
def extraFields : Table := [
  opt "allocateLoadBalancerNodePorts" boolean, opt "externalIPs" texts, opt "externalName" text,
  opt "externalTrafficPolicy" text, opt "healthCheckNodePort" int32,
  opt "internalTrafficPolicy" text, opt "ipFamilies" texts, opt "ipFamilyPolicy" text,
  opt "loadBalancerClass" text, opt "loadBalancerIP" text, opt "loadBalancerSourceRanges" texts,
  opt "publishNotReadyAddresses" boolean,
  opt "sessionAffinityConfig" (object "SessionAffinityConfig" [
    opt "clientIP" (object "ClientIPConfig" [opt "timeoutSeconds" int32])]),
  opt "trafficDistribution" text]

def decode : Decoder ServiceSpec :=
  Fields.object "ServiceSpec" (
    ServiceSpec.mk
      <$> Fields.optional "clusterIP" Decoder.text
      <*> Fields.optional "clusterIPs" (Decoder.list Decoder.text)
      <*> Fields.optional "ports" (Decoder.list ServicePort.decode)
      <*> Fields.optional "selector" (Decoder.dict Decoder.text)
      <*> Fields.optional "sessionAffinity" Decoder.text
      <*> Fields.optional "type" Decoder.text
      <*> Shape.known extraFields)

def toJson (s : ServiceSpec) : Json :=
  Json.ofEntries [
    ("clusterIP", s.clusterIP.map .str),
    ("clusterIPs", s.clusterIPs.map (Json.ofList .str)),
    ("ports", s.ports.map (Json.ofList ServicePort.toJson)),
    ("selector", s.selector.map Json.ofTexts),
    ("sessionAffinity", s.sessionAffinity.map .str),
    ("type", s.type.map .str)] s.extra

end ServiceSpec

structure Service where
  metadata : ObjectMeta := {}
  spec : Option ServiceSpec := none
  status : Option Json := none
  deriving DecidableEq, Inhabited

namespace Service

open Shape in
def statusShape : Shape :=
  object "ServiceStatus" [
    opt "conditions" (list (object "Condition" [
      req "lastTransitionTime" timestamp, req "message" text, opt "observedGeneration" int64,
      req "reason" text, req "status" text, req "type" text])),
    opt "loadBalancer" (object "LoadBalancerStatus" [
      opt "ingress" (list (object "LoadBalancerIngress" [
        opt "hostname" text, opt "ip" text, opt "ipMode" text,
        opt "ports" (list (object "PortStatus" [
          opt "error" text, req "port" int32, req "protocol" text]))]))])]

def decode : Decoder Service :=
  Fields.object "Service" (
    (fun _ _ metadata spec status => Service.mk metadata spec status)
      <$> Fields.literal "apiVersion" "v1"
      <*> Fields.literal "kind" "Service"
      <*> Fields.orDefault "metadata" {} ObjectMeta.decode
      <*> Fields.optional "spec" ServiceSpec.decode
      <*> Fields.optional "status" statusShape.read)

def toJson (s : Service) : Json :=
  Json.ofOptionalFields [
    ("apiVersion", some (.str "v1")), ("kind", some (.str "Service")),
    ("metadata", some s.metadata.toJson), ("spec", s.spec.map ServiceSpec.toJson),
    ("status", s.status)]

end Service

end CompositeApps
