import CompositeApps.Manifest.Shape

/-!
The metadata that every stored object carries.
-/

namespace CompositeApps

abbrev Labels := Dict String

/-- An object that another one belongs to. The controller is the owner that manages it. -/
structure OwnerReference where
  apiVersion : String
  blockOwnerDeletion : Option Bool
  controller : Option Bool
  kind : String
  name : String
  uid : String
  deriving DecidableEq, Inhabited

namespace OwnerReference

def decode : Decoder OwnerReference :=
  Fields.object "OwnerReference" (
    OwnerReference.mk
      <$> Fields.orDefault "apiVersion" "" Decoder.text
      <*> Fields.optional "blockOwnerDeletion" Decoder.boolean
      <*> Fields.optional "controller" Decoder.boolean
      <*> Fields.orDefault "kind" "" Decoder.text
      <*> Fields.orDefault "name" "" Decoder.text
      <*> Fields.orDefault "uid" "" Decoder.text)

def toJson (r : OwnerReference) : Json :=
  Json.ofOptionalFields [
    ("apiVersion", some (.str r.apiVersion)),
    ("blockOwnerDeletion", r.blockOwnerDeletion.map .bool),
    ("controller", r.controller.map .bool),
    ("kind", some (.str r.kind)),
    ("name", some (.str r.name)),
    ("uid", some (.str r.uid))]

end OwnerReference

structure ObjectMeta where
  annotations : Option Labels := none
  creationTimestamp : Option Timestamp := none
  deletionGracePeriodSeconds : Option Int := none
  deletionTimestamp : Option Timestamp := none
  finalizers : Option (List String) := none
  generateName : Option String := none
  generation : Option Int := none
  labels : Option Labels := none
  managedFields : Option (List Json) := none
  name : Option String := none
  namespaceName : Option String := none
  ownerReferences : Option (List OwnerReference) := none
  resourceVersion : Option String := none
  selfLink : Option String := none
  uid : Option String := none
  deriving DecidableEq, Inhabited

namespace ObjectMeta

open Shape in
def managedFieldsEntry : Shape :=
  object "ManagedFieldsEntry" [
    opt "apiVersion" text, opt "fieldsType" text, opt "fieldsV1" anything, opt "manager" text,
    opt "operation" text, opt "subresource" text, opt "time" timestamp]

def decode : Decoder ObjectMeta :=
  Fields.object "ObjectMeta" (
    ObjectMeta.mk
      <$> Fields.optional "annotations" (Decoder.dict Decoder.text)
      <*> Fields.optional "creationTimestamp" Decoder.timestamp
      <*> Fields.optional "deletionGracePeriodSeconds" Decoder.int64
      <*> Fields.optional "deletionTimestamp" Decoder.timestamp
      <*> Fields.optional "finalizers" (Decoder.list Decoder.text)
      <*> Fields.optional "generateName" Decoder.text
      <*> Fields.optional "generation" Decoder.int64
      <*> Fields.optional "labels" (Decoder.dict Decoder.text)
      <*> Fields.optional "managedFields" (Decoder.list managedFieldsEntry.read)
      <*> Fields.optional "name" Decoder.text
      <*> Fields.optional "namespace" Decoder.text
      <*> Fields.optional "ownerReferences" (Decoder.list OwnerReference.decode)
      <*> Fields.optional "resourceVersion" Decoder.text
      <*> Fields.optional "selfLink" Decoder.text
      <*> Fields.optional "uid" Decoder.text)

def toJson (m : ObjectMeta) : Json :=
  Json.ofOptionalFields [
    ("annotations", m.annotations.map Json.ofTexts),
    ("creationTimestamp", m.creationTimestamp.map (.str ·.text)),
    ("deletionGracePeriodSeconds", m.deletionGracePeriodSeconds.map .int),
    ("deletionTimestamp", m.deletionTimestamp.map (.str ·.text)),
    ("finalizers", m.finalizers.map (Json.ofList .str)),
    ("generateName", m.generateName.map .str),
    ("generation", m.generation.map .int),
    ("labels", m.labels.map Json.ofTexts),
    ("managedFields", m.managedFields.map .arr),
    ("name", m.name.map .str),
    ("namespace", m.namespaceName.map .str),
    ("ownerReferences", m.ownerReferences.map (Json.ofList OwnerReference.toJson)),
    ("resourceVersion", m.resourceVersion.map .str),
    ("selfLink", m.selfLink.map .str),
    ("uid", m.uid.map .str)]

/-- An object without a name goes by the name it asks the server to complete. -/
def displayName (m : ObjectMeta) : String :=
  (m.name <|> m.generateName).getD ""

def namespaceOrDefault (m : ObjectMeta) : String :=
  m.namespaceName.getD "default"

def labelsOrEmpty (m : ObjectMeta) : Labels :=
  m.labels.getD ∅

def isTerminating (m : ObjectMeta) : Bool :=
  m.deletionTimestamp.isSome

def finalizerList (m : ObjectMeta) : List String :=
  m.finalizers.getD []

def owners (m : ObjectMeta) : List OwnerReference :=
  m.ownerReferences.getD []

end ObjectMeta

def Labels.merge (first second : Labels) : Labels :=
  second.foldl (fun acc k v => acc.insert k v) first

end CompositeApps
