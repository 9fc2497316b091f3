import CompositeApps.Manifest.PodShapes

/-!
One container of a pod: its image, environment, resources, probes, ports and mounts.
-/

namespace CompositeApps

/-- Amounts by resource name. An amount is kept as the text it was written as. -/
abbrev ResourceList := Dict String

structure ResourceRequirements where
  claims : Option (List Json) := none
  limits : Option ResourceList := none
  requests : Option ResourceList := none
  deriving DecidableEq, Inhabited

namespace ResourceRequirements

def decode : Decoder ResourceRequirements :=
  Fields.object "ResourceRequirements" (
    ResourceRequirements.mk
      <$> Fields.optional "claims" (Decoder.list Shape.resourceClaim.read)
      <*> Fields.optional "limits" (Decoder.dict Decoder.text)
      <*> Fields.optional "requests" (Decoder.dict Decoder.text))

def toJson (r : ResourceRequirements) : Json :=
  Json.ofOptionalFields [
    ("claims", r.claims.map .arr),
    ("limits", r.limits.map Json.ofTexts),
    ("requests", r.requests.map Json.ofTexts)]

end ResourceRequirements

structure FieldSelector where
  apiVersion : Option String
  fieldPath : String
  deriving DecidableEq, Inhabited

namespace FieldSelector

def decode : Decoder FieldSelector :=
  Fields.object "ObjectFieldSelector" (
    FieldSelector.mk
      <$> Fields.optional "apiVersion" Decoder.text
      <*> Fields.orDefault "fieldPath" "" Decoder.text)

def toJson (f : FieldSelector) : Json :=
  Json.ofOptionalFields [
    ("apiVersion", f.apiVersion.map .str), ("fieldPath", some (.str f.fieldPath))]

end FieldSelector

structure EnvSource where
  configMapKeyRef : Option Json
  fieldRef : Option FieldSelector
  resourceFieldRef : Option Json
  secretKeyRef : Option Json
  deriving DecidableEq, Inhabited

namespace EnvSource

def decode : Decoder EnvSource :=
  Fields.object "EnvVarSource" (
    EnvSource.mk
      <$> Fields.optional "configMapKeyRef" Shape.configMapKeySelector.read
      <*> Fields.optional "fieldRef" FieldSelector.decode
      <*> Fields.optional "resourceFieldRef" Shape.resourceFieldSelector.read
      <*> Fields.optional "secretKeyRef" Shape.secretKeySelector.read)

def toJson (s : EnvSource) : Json :=
  Json.ofOptionalFields [
    ("configMapKeyRef", s.configMapKeyRef), ("fieldRef", s.fieldRef.map FieldSelector.toJson),
    ("resourceFieldRef", s.resourceFieldRef), ("secretKeyRef", s.secretKeyRef)]

end EnvSource

structure EnvVar where
  name : String
  value : Option String
  valueFrom : Option EnvSource
  deriving DecidableEq, Inhabited

namespace EnvVar

def decode : Decoder EnvVar :=
  Fields.object "EnvVar" (
    EnvVar.mk
      <$> Fields.orDefault "name" "" Decoder.text
      <*> Fields.optional "value" Decoder.text
      <*> Fields.optional "valueFrom" EnvSource.decode)

def toJson (v : EnvVar) : Json :=
  Json.ofOptionalFields [
    ("name", some (.str v.name)), ("value", v.value.map .str),
    ("valueFrom", v.valueFrom.map EnvSource.toJson)]

end EnvVar

structure HttpGet where
  host : Option String := none
  httpHeaders : Option (List Json) := none
  path : Option String := none
  port : IntOrText
  scheme : Option String := none
  deriving DecidableEq, Inhabited

namespace HttpGet

def header : Shape :=
  .object "HTTPHeader" [Shape.req "name" .text, Shape.req "value" .text]

def decode : Decoder HttpGet :=
  Fields.object "HTTPGetAction" (
    HttpGet.mk
      <$> Fields.optional "host" Decoder.text
      <*> Fields.optional "httpHeaders" (Decoder.list header.read)
      <*> Fields.optional "path" Decoder.text
      <*> Fields.orDefault "port" (.int 0) IntOrText.decode
      <*> Fields.optional "scheme" Decoder.text)

def toJson (a : HttpGet) : Json :=
  Json.ofOptionalFields [
    ("host", a.host.map .str), ("httpHeaders", a.httpHeaders.map .arr),
    ("path", a.path.map .str), ("port", some a.port.toJson), ("scheme", a.scheme.map .str)]

end HttpGet

structure TcpSocket where
  host : Option String := none
  port : IntOrText
  deriving DecidableEq, Inhabited

namespace TcpSocket

def decode : Decoder TcpSocket :=
  Fields.object "TCPSocketAction" (
    TcpSocket.mk
      <$> Fields.optional "host" Decoder.text
      <*> Fields.orDefault "port" (.int 0) IntOrText.decode)

def toJson (a : TcpSocket) : Json :=
  Json.ofOptionalFields [("host", a.host.map .str), ("port", some a.port.toJson)]

end TcpSocket

structure Exec where
  command : Option (List String)
  deriving DecidableEq, Inhabited

namespace Exec

def decode : Decoder Exec :=
  Fields.object "ExecAction" (
    Exec.mk <$> Fields.optional "command" (Decoder.list Decoder.text))

def toJson (a : Exec) : Json :=
  Json.ofOptionalFields [("command", a.command.map (Json.ofList .str))]

end Exec

structure Probe where
  exec : Option Exec := none
  failureThreshold : Option Int := none
  grpc : Option Json := none
  httpGet : Option HttpGet := none
  initialDelaySeconds : Option Int := none
  periodSeconds : Option Int := none
  successThreshold : Option Int := none
  tcpSocket : Option TcpSocket := none
  terminationGracePeriodSeconds : Option Int := none
  timeoutSeconds : Option Int := none
  deriving DecidableEq, Inhabited

namespace Probe

def decode : Decoder Probe :=
  Fields.object "Probe" (
    Probe.mk
      <$> Fields.optional "exec" Exec.decode
      <*> Fields.optional "failureThreshold" Decoder.int32
      <*> Fields.optional "grpc" Shape.grpcAction.read
      <*> Fields.optional "httpGet" HttpGet.decode
      <*> Fields.optional "initialDelaySeconds" Decoder.int32
      <*> Fields.optional "periodSeconds" Decoder.int32
      <*> Fields.optional "successThreshold" Decoder.int32
      <*> Fields.optional "tcpSocket" TcpSocket.decode
      <*> Fields.optional "terminationGracePeriodSeconds" Decoder.int64
      <*> Fields.optional "timeoutSeconds" Decoder.int32)

def toJson (p : Probe) : Json :=
  Json.ofOptionalFields [
    ("exec", p.exec.map Exec.toJson),
    ("failureThreshold", p.failureThreshold.map .int),
    ("grpc", p.grpc),
    ("httpGet", p.httpGet.map HttpGet.toJson),
    ("initialDelaySeconds", p.initialDelaySeconds.map .int),
    ("periodSeconds", p.periodSeconds.map .int),
    ("successThreshold", p.successThreshold.map .int),
    ("tcpSocket", p.tcpSocket.map TcpSocket.toJson),
    ("terminationGracePeriodSeconds", p.terminationGracePeriodSeconds.map .int),
    ("timeoutSeconds", p.timeoutSeconds.map .int)]

end Probe

structure ContainerPort where
  containerPort : Int
  hostIP : Option String := none
  hostPort : Option Int := none
  name : Option String := none
  protocol : Option String := none
  deriving DecidableEq, Inhabited

namespace ContainerPort

def decode : Decoder ContainerPort :=
  Fields.object "ContainerPort" (
    ContainerPort.mk
      <$> Fields.orDefault "containerPort" 0 Decoder.int32
      <*> Fields.optional "hostIP" Decoder.text
      <*> Fields.optional "hostPort" Decoder.int32
      <*> Fields.optional "name" Decoder.text
      <*> Fields.optional "protocol" Decoder.text)

def toJson (p : ContainerPort) : Json :=
  Json.ofOptionalFields [
    ("containerPort", some (.int p.containerPort)), ("hostIP", p.hostIP.map .str),
    ("hostPort", p.hostPort.map .int), ("name", p.name.map .str),
    ("protocol", p.protocol.map .str)]

end ContainerPort

structure VolumeMount where
  mountPath : String
  name : String
  extra : Extra := []
  deriving DecidableEq, Inhabited

namespace VolumeMount

open Shape in
def extraFields : Table := [
  opt "mountPropagation" text, opt "readOnly" boolean, opt "recursiveReadOnly" text,
  opt "subPath" text, opt "subPathExpr" text]

def decode : Decoder VolumeMount :=
  Fields.object "VolumeMount" (
    VolumeMount.mk
      <$> Fields.orDefault "mountPath" "" Decoder.text
      <*> Fields.orDefault "name" "" Decoder.text
      <*> Shape.known extraFields)

def toJson (m : VolumeMount) : Json :=
  Json.ofEntries [("mountPath", some (.str m.mountPath)), ("name", some (.str m.name))] m.extra

end VolumeMount

structure Container where
  env : Option (List EnvVar) := none
  image : Option String := none
  imagePullPolicy : Option String := none
  livenessProbe : Option Probe := none
  name : String
  ports : Option (List ContainerPort) := none
  readinessProbe : Option Probe := none
  resources : Option ResourceRequirements := none
  terminationMessagePath : Option String := none
  terminationMessagePolicy : Option String := none
  volumeMounts : Option (List VolumeMount) := none
  extra : Extra := []
  deriving DecidableEq, Inhabited

namespace Container

def decode : Decoder Container :=
  Fields.object "Container" (
    Container.mk
      <$> Fields.optional "env" (Decoder.list EnvVar.decode)
      <*> Fields.optional "image" Decoder.text
      <*> Fields.optional "imagePullPolicy" Decoder.text
      <*> Fields.optional "livenessProbe" Probe.decode
      <*> Fields.orDefault "name" "" Decoder.text
      <*> Fields.optional "ports" (Decoder.list ContainerPort.decode)
      <*> Fields.optional "readinessProbe" Probe.decode
      <*> Fields.optional "resources" ResourceRequirements.decode
      <*> Fields.optional "terminationMessagePath" Decoder.text
      <*> Fields.optional "terminationMessagePolicy" Decoder.text
      <*> Fields.optional "volumeMounts" (Decoder.list VolumeMount.decode)
      <*> Shape.known Shape.containerExtra)

def toJson (c : Container) : Json :=
  Json.ofEntries [
    ("env", c.env.map (Json.ofList EnvVar.toJson)),
    ("image", c.image.map .str),
    ("imagePullPolicy", c.imagePullPolicy.map .str),
    ("livenessProbe", c.livenessProbe.map Probe.toJson),
    ("name", some (.str c.name)),
    ("ports", c.ports.map (Json.ofList ContainerPort.toJson)),
    ("readinessProbe", c.readinessProbe.map Probe.toJson),
    ("resources", c.resources.map ResourceRequirements.toJson),
    ("terminationMessagePath", c.terminationMessagePath.map .str),
    ("terminationMessagePolicy", c.terminationMessagePolicy.map .str),
    ("volumeMounts", c.volumeMounts.map (Json.ofList VolumeMount.toJson))] c.extra

end Container

end CompositeApps
