import CompositeApps.Api.Path
import CompositeApps.Definition.AppSchema
import CompositeApps.Yaml.Printer

/-!
The definition by which a cluster learns about apps: their names, what they look like, and what
listings show of them.
-/

namespace CompositeApps

structure PrinterColumn where
  name : String
  type : String
  path : String
  deriving DecidableEq, Repr, Inhabited

def PrinterColumn.toJson (c : PrinterColumn) : Json :=
  .obj [("jsonPath", .str c.path), ("name", .str c.name), ("type", .str c.type)]

namespace CompositeApp

def apiGroup : String := "apps.composite.dev"

def apiVersionName : String := "v1"

def columns : List PrinterColumn := [
  ⟨"Success", "boolean", ".status.success"⟩,
  ⟨"Replicas", "string", ".status.desc.replicas"⟩,
  ⟨"Images", "string", ".status.desc.images"⟩,
  ⟨"Weights", "string", ".status.desc.weights"⟩,
  ⟨"Prefix", "string", ".status.desc.prefixPath"⟩]

def names : Json :=
  Json.ofFields [
    ("categories", .arr []),
    ("kind", .str Kind.app.name),
    ("plural", .str Kind.app.plural),
    ("shortNames", .arr [.str "capp"]),
    ("singular", .str "compositeapp")]

/-- The only version that is served. The status is written apart from the rest. -/
def definedVersion : Json :=
  Json.ofFields [
    ("additionalPrinterColumns", .arr (columns.map PrinterColumn.toJson)),
    ("name", .str apiVersionName),
    ("schema", .obj [("openAPIV3Schema", schema.toJson)]),
    ("served", .bool true),
    ("storage", .bool true),
    ("subresources", .obj [("status", .obj [])])]

def definition : Json :=
  Json.ofFields [
    ("apiVersion", .str "apiextensions.k8s.io/v1"),
    ("kind", .str "CustomResourceDefinition"),
    ("metadata", .obj [("name", .str (Kind.app.plural ++ "." ++ apiGroup))]),
    ("spec", Json.ofFields [
      ("group", .str apiGroup),
      ("names", names),
      ("scope", .str "Namespaced"),
      ("versions", .arr [definedVersion])])]

def definitionText : String :=
  Yaml.document definition

end CompositeApp

end CompositeApps
