import CompositeApps.Cluster.Resource

/-!
Where the API serves the objects of a kind.
-/

namespace CompositeApps

namespace Kind

/-- The group of a kind and its version; the core group has no name. -/
def apiVersion : Kind → String
  | app => CompositeApp.apiVersion
  | child .deployment => "apps/v1"
  | child .service => "v1"
  | child .virtualService | child .destinationRule => "networking.istio.io/v1beta1"
  | child .autoscaler => "autoscaling/v1"

def plural : Kind → String
  | app => "compositeapps"
  | child .deployment => "deployments"
  | child .service => "services"
  | child .virtualService => "virtualservices"
  | child .autoscaler => "horizontalpodautoscalers"
  | child .destinationRule => "destinationrules"

/-- The path of all objects of a kind, or of those of one namespace. -/
def collectionPath (k : Kind) (namespaceName : Option String) : String :=
  let root := match k with
    | child .service => "/api/"
    | _ => "/apis/"
  let inNamespace := match namespaceName with
    | none => ""
    | some n => "/namespaces/" ++ n
  root ++ k.apiVersion ++ inNamespace ++ "/" ++ k.plural

end Kind

namespace ObjectKey

def collectionPath (k : ObjectKey) : String :=
  k.kind.collectionPath (some k.namespaceName)

def path (k : ObjectKey) : String :=
  k.collectionPath ++ "/" ++ k.name

end ObjectKey

end CompositeApps
