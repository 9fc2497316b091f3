import CompositeApps.Desired.Basic

/-!
The part of an object that its app decides. Two objects that agree on it need no write.
-/

namespace CompositeApps

structure ContainerView where
  name : String
  image : Option String
  ports : Option (List ContainerPort)
  resources : Option ResourceRequirements
  env : Option (List EnvVar)
  readinessProbe : Option Probe
  livenessProbe : Option Probe
  volumeMounts : Option (List VolumeMount)
  deriving DecidableEq

def ContainerView.of (c : Container) : ContainerView :=
  ⟨c.name, c.image, c.ports, c.resources, c.env, c.readinessProbe, c.livenessProbe, c.volumeMounts⟩

structure DeploymentView where
  labels : Labels
  replicas : Option Int
  selector : Option Labels
  strategy : Option DeploymentStrategy
  templateLabels : Option Labels
  templateAnnotations : Option Labels
  volumes : Option (List Volume)
  imagePullSecrets : Option (List Json)
  nodeSelector : Option Labels
  hostAliases : Option (List Json)
  affinity : Option Json
  tolerations : Option (List Json)
  gracePeriod : Option Int
  containers : List ContainerView
  deriving DecidableEq

/-- What is missing from a deployment counts as empty. -/
def DeploymentView.of (d : Deployment) : DeploymentView :=
  let spec := d.spec.getD {}
  let info := spec.template.metadata.getD {}
  let pod := spec.template.spec.getD { containers := [] }
  { labels := d.metadata.labelsOrEmpty
    replicas := spec.replicas
    selector := spec.selector.matchLabels
    strategy := spec.strategy
    templateLabels := info.labels
    templateAnnotations := info.annotations
    volumes := pod.volumes
    imagePullSecrets := pod.imagePullSecrets
    nodeSelector := pod.nodeSelector
    hostAliases := pod.hostAliases
    affinity := pod.affinity
    tolerations := pod.tolerations
    gracePeriod := pod.terminationGracePeriodSeconds
    containers := pod.containers.map ContainerView.of }

structure ServiceView where
  labels : Labels
  type : Option String
  selector : Option Labels
  ports : Option (List ServicePort)
  sessionAffinity : Option String
  deriving DecidableEq

def ServiceView.of (s : Service) : ServiceView :=
  let spec := s.spec.getD {}
  ⟨s.metadata.labelsOrEmpty, spec.type, spec.selector, spec.ports, spec.sessionAffinity⟩

inductive Projection where
  | deployment (view : DeploymentView)
  | service (view : ServiceView)
  | virtualService (labels : Labels) (spec : VirtualServiceSpec)
  | autoscaler (spec : Option AutoscalerSpec)
  | destinationRule (labels : Labels) (spec : DestinationRuleSpec)
  deriving DecidableEq

namespace Projection

def of : Child → Projection
  | .deployment d => deployment (DeploymentView.of d)
  | .service s => service (ServiceView.of s)
  | .virtualService v => virtualService v.metadata.labelsOrEmpty v.spec
  | .autoscaler a => autoscaler a.spec
  | .destinationRule r => destinationRule r.metadata.labelsOrEmpty r.spec

/-- The projection with one form for each number in it. -/
def canonical : Projection → Projection
  | virtualService labels spec => virtualService labels spec.canonical
  | p => p

def agrees (p q : Projection) : Bool :=
  p.canonical = q.canonical

end Projection

/-- What an update takes over from the object it replaces: the version it is based on, and the
addresses that the server gave a service. -/
def Child.preparedUpdate (wanted observed : Child) : Child :=
  let based := wanted.withMetadata
    { wanted.metadata with resourceVersion := observed.metadata.resourceVersion }
  match based, observed with
  | .service s, .service seen =>
    .service { s with spec := match s.spec, seen.spec with
      | some spec, some old =>
        some { spec with clusterIP := old.clusterIP, clusterIPs := old.clusterIPs }
      | spec, _ => spec }
  | other, _ => other

end CompositeApps
