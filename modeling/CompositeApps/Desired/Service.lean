import CompositeApps.Desired.Basic

/-!
The service of an app: one port for each number that a version uses, named by the protocol of the
first version that uses it, and a diagnostics port for apps that serve.
-/

namespace CompositeApps.Desired

def diagnosticsPort : Int := 9000

def servicePort (name : String) (number : Int) : ServicePort :=
  { name := some name
    port := number
    protocol := some "TCP"
    targetPort := some (.int number) }

def versionPort (e : VersionEntry) : ServicePort :=
  servicePort (e.protocol.portScheme ++ "-" ++ toString e.port) e.port

def usesPort (ports : List ServicePort) (number : Int) : Bool :=
  ports.any (·.port = number)

/-- One port for each number, in the order of their first occurrence. -/
def versionPorts (entries : List VersionEntry) : List ServicePort :=
  entries.foldl
    (fun ports e => if usesPort ports e.port then ports else ports ++ [versionPort e]) []

def isServing (role : Option AppRole) : Bool :=
  role = some .gateway || role = some .service

def servicePorts (app : CompositeApp) : List ServicePort :=
  let ports := versionPorts app.spec.apps
  if isServing app.spec.role && !usesPort ports diagnosticsPort then
    ports ++ [servicePort "diagnostics" diagnosticsPort]
  else ports

def service (app : CompositeApp) : Desired Service :=
  if app.spec.apps.isEmpty then .absent
  else .present
    { metadata := app.childMetadata
      spec := some {
        type := some "ClusterIP"
        selector := some app.selector
        ports := some (servicePorts app)
        sessionAffinity := some "None" } }

end CompositeApps.Desired
