import CompositeApps.Manifest.VirtualService

/-!
How an app is reached from outside the mesh: hosts, a path, the share of each version, and headers
that pin a request to a version.
-/

namespace CompositeApps

structure CorsSpec where
  allowOrigins : List String := []
  allowMethods : List String := []
  allowHeaders : List String := []
  exposeHeaders : List String := []
  deriving DecidableEq, Repr, Inhabited

namespace CorsSpec

def decode : Decoder CorsSpec :=
  Fields.record "CorsSpec" (
    CorsSpec.mk
      <$> Fields.withDefault "allowOrigins" [] (Decoder.list Decoder.text)
      <*> Fields.withDefault "allowMethods" [] (Decoder.list Decoder.text)
      <*> Fields.withDefault "allowHeaders" [] (Decoder.list Decoder.text)
      <*> Fields.withDefault "exposeHeaders" [] (Decoder.list Decoder.text))

def toJson (c : CorsSpec) : Json :=
  .obj [
    ("allowHeaders", Json.ofList .str c.allowHeaders),
    ("allowMethods", Json.ofList .str c.allowMethods),
    ("allowOrigins", Json.ofList .str c.allowOrigins),
    ("exposeHeaders", Json.ofList .str c.exposeHeaders)]

end CorsSpec

/-- Sets of headers each of which pins a request to one version. -/
structure VersionRoute where
  headersMatch : List (Dict String) := []
  deriving DecidableEq, Inhabited

namespace VersionRoute

def decode : Decoder VersionRoute :=
  Fields.record "VersionRoute" (
    VersionRoute.mk
      <$> Fields.withDefault "headersMatch" [] (Decoder.list (Decoder.dict Decoder.text)))

def toJson (r : VersionRoute) : Json :=
  .obj [("headersMatch", Json.ofList Json.ofTexts r.headersMatch)]

end VersionRoute

/-- A missing path means the name of the app; an empty one means no path. The weights are the
shares of the versions in percent. -/
structure GatewaySpec where
  hosts : List String
  pathPrefix : Option String := none
  weights : Dict Int := ∅
  cors : Option CorsSpec := none
  routes : Dict VersionRoute := ∅
  gateway : Option String := none
  deriving DecidableEq, Inhabited

namespace GatewaySpec

def decode : Decoder GatewaySpec :=
  Fields.record "GatewaySpec" (
    GatewaySpec.mk
      <$> Fields.required "hosts" (Decoder.list Decoder.text)
      <*> Fields.optional "pathPrefix" Decoder.text
      <*> Fields.withDefault "weights" ∅ (Decoder.dict Decoder.int32)
      <*> Fields.optional "cors" CorsSpec.decode
      <*> Fields.withDefault "routes" ∅ (Decoder.dict VersionRoute.decode)
      <*> Fields.optional "gateway" Decoder.text)

def toJson (g : GatewaySpec) : Json :=
  Json.ofOptionalFields [
    ("cors", g.cors.map CorsSpec.toJson),
    ("gateway", g.gateway.map .str),
    ("hosts", some (Json.ofList .str g.hosts)),
    ("pathPrefix", g.pathPrefix.map .str),
    ("routes", unlessEmpty (·.isEmpty) (Json.ofDict VersionRoute.toJson) g.routes),
    ("weights", some (Json.ofDict .int g.weights))]

def ingressGateway (g : GatewaySpec) : String :=
  match g.gateway with
  | some name => if name = "" then "istio-system/gateway" else name
  | none => "istio-system/gateway"

end GatewaySpec

end CompositeApps
