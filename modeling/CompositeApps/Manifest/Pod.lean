import CompositeApps.Manifest.Container

/-!
Pods and the template that a deployment makes them from.
-/

namespace CompositeApps

/-- A volume by its name; `source` holds the one field that says where its content comes from. -/
structure Volume where
  name : String
  source : Extra
  deriving DecidableEq, Inhabited

namespace Volume

def decode : Decoder Volume :=
  Fields.object "Volume" (
    Volume.mk <$> Fields.orDefault "name" "" Decoder.text <*> Shape.known Shape.volumeSources)

def toJson (v : Volume) : Json :=
  Json.ofEntries [("name", some (.str v.name))] v.source

def ofHostPath (name path : String) : Volume :=
  ⟨name, [("hostPath", Json.ofFields [("path", .str path), ("type", .str "")])]⟩

def ofEmptyDir (name : String) : Volume :=
  ⟨name, [("emptyDir", .obj [])]⟩

end Volume

structure PodSpec where
  affinity : Option Json := none
  containers : List Container
  dnsPolicy : Option String := none
  hostAliases : Option (List Json) := none
  imagePullSecrets : Option (List Json) := none
  nodeSelector : Option Labels := none
  restartPolicy : Option String := none
  schedulerName : Option String := none
  securityContext : Option Json := none
  terminationGracePeriodSeconds : Option Int := none
  tolerations : Option (List Json) := none
  volumes : Option (List Volume) := none
  extra : Extra := []
  deriving DecidableEq, Inhabited

namespace PodSpec

def decode : Decoder PodSpec :=
  Fields.object "PodSpec" (
    PodSpec.mk
      <$> Fields.optional "affinity" Shape.affinity.read
      <*> Fields.orDefault "containers" [] (Decoder.list Container.decode)
      <*> Fields.optional "dnsPolicy" Decoder.text
      <*> Fields.optional "hostAliases" (Decoder.list Shape.hostAlias.read)
      <*> Fields.optional "imagePullSecrets" (Decoder.list Shape.localObjectReference.read)
      <*> Fields.optional "nodeSelector" (Decoder.dict Decoder.text)
      <*> Fields.optional "restartPolicy" Decoder.text
      <*> Fields.optional "schedulerName" Decoder.text
      <*> Fields.optional "securityContext" Shape.podSecurityContext.read
      <*> Fields.optional "terminationGracePeriodSeconds" Decoder.int64
      <*> Fields.optional "tolerations" (Decoder.list Shape.toleration.read)
      <*> Fields.optional "volumes" (Decoder.list Volume.decode)
      <*> Shape.known Shape.podExtra)

def toJson (p : PodSpec) : Json :=
  Json.ofEntries [
    ("affinity", p.affinity),
    ("containers", some (Json.ofList Container.toJson p.containers)),
    ("dnsPolicy", p.dnsPolicy.map .str),
    ("hostAliases", p.hostAliases.map .arr),
    ("imagePullSecrets", p.imagePullSecrets.map .arr),
    ("nodeSelector", p.nodeSelector.map Json.ofTexts),
    ("restartPolicy", p.restartPolicy.map .str),
    ("schedulerName", p.schedulerName.map .str),
    ("securityContext", p.securityContext),
    ("terminationGracePeriodSeconds", p.terminationGracePeriodSeconds.map .int),
    ("tolerations", p.tolerations.map .arr),
    ("volumes", p.volumes.map (Json.ofList Volume.toJson))] p.extra

end PodSpec

structure PodTemplate where
  metadata : Option ObjectMeta := none
  spec : Option PodSpec := none
  deriving DecidableEq, Inhabited

namespace PodTemplate

def decode : Decoder PodTemplate :=
  Fields.object "PodTemplateSpec" (
    PodTemplate.mk
      <$> Fields.optional "metadata" ObjectMeta.decode
      <*> Fields.optional "spec" PodSpec.decode)

def toJson (t : PodTemplate) : Json :=
  Json.ofOptionalFields [
    ("metadata", t.metadata.map ObjectMeta.toJson), ("spec", t.spec.map PodSpec.toJson)]

end PodTemplate

end CompositeApps
