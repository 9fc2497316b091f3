import CompositeApps.Desired.Basic
import CompositeApps.Quantity

/-!
The deployment of a version. What the cluster or a person rightly changed on the running one is
kept: the number of pods within the bounds, the mark of a restart, and the spelling of amounts.
-/

namespace CompositeApps.Desired

def restartMark : String := "apps.composite.dev/restart-mark"

def timezoneVolume : String := "tz-config"

def localtime : String := "/etc/localtime"

def defaultLogPath : String := "/app/logs/"

def nonEmpty? {α : Type} (items : List α) : Option (List α) :=
  if items.isEmpty then none else some items

def nonEmptyLabels? (labels : Labels) : Option Labels :=
  if labels.isEmpty then none else some labels

def nonEmptyText? (s : Option String) : Option String :=
  s.filter (· ≠ "")

def positiveOr (fallback n : Int) : Int :=
  if 0 < n then n else fallback

def strategy : Rollout → DeploymentStrategy
  | .recreate => ⟨none, some "Recreate"⟩
  | .rollingUpdate => ⟨some ⟨some (.text "25%"), some (.text "25%")⟩, some "RollingUpdate"⟩

/-- The probe asks for the path if there is one, else runs the command, else opens the port. -/
def probe (spec : ProbeSpec) (port : Int) : Probe :=
  let base : Probe :=
    { initialDelaySeconds := some (positiveOr 10 spec.initialDelaySeconds)
      timeoutSeconds := some (positiveOr 3 spec.timeoutSeconds)
      periodSeconds := some 10
      successThreshold := some 1
      failureThreshold := some 3 }
  match nonEmptyText? spec.httpPath with
  | some path =>
    { base with httpGet := some { path := some path, port := .int port, scheme := some "HTTP" } }
  | none =>
    if spec.execCommand.isEmpty then { base with tcpSocket := some { port := .int port } }
    else { base with exec := some ⟨some spec.execCommand⟩ }

/-- A field of the pod is taken from version `v1` unless another one is named; the server would
fill it in. -/
def withFieldVersion (v : EnvVar) : EnvVar :=
  { v with valueFrom := v.valueFrom.map fun source =>
      { source with fieldRef := source.fieldRef.map fun f =>
          { f with apiVersion := some (f.apiVersion.getD "v1") } } }

/-- The annotation that asks for an amount of the sidecar, unless the amount is zero. -/
def sidecarAmount (amounts : Option ResourceList) (resource key : String) :
    Option (String × String) := do
  let amount ← (← amounts)[resource]?
  if Quantity.nanoUnits? amount = some 0 then none else some (key, amount)

def proxyAnnotations (proxy : ResourceRequirements) : List (String × String) :=
  [sidecarAmount proxy.requests "cpu" "sidecar.istio.io/proxyCPU",
    sidecarAmount proxy.limits "cpu" "sidecar.istio.io/proxyCPULimit",
    sidecarAmount proxy.requests "memory" "sidecar.istio.io/proxyMemory",
    sidecarAmount proxy.limits "memory" "sidecar.istio.io/proxyMemoryLimit"].filterMap id

def templateAnnotations (e : VersionEntry) : Labels :=
  let marked :=
    if e.restartMark = "" then e.templateAnnotations
    else e.templateAnnotations.insert restartMark e.restartMark
  match e.proxyResources with
  | some proxy => (proxyAnnotations proxy).foldl (fun acc (k, v) => acc.insert k v) marked
  | none => marked

def logsVolume (app : CompositeApp) : String :=
  app.name ++ "-logs"

def container (app : CompositeApp) (e : VersionEntry) : Container :=
  { name := app.versionName e
    image := some e.imageReference
    imagePullPolicy := some "Always"
    ports := some [{ containerPort := e.port, protocol := some "TCP" }]
    resources := some e.resources
    env := nonEmpty? (e.env.map withFieldVersion)
    readinessProbe := e.readinessProbe.map (probe · e.port)
    livenessProbe := e.livenessProbe.map (probe · e.port)
    terminationMessagePath := some "/dev/termination-log"
    terminationMessagePolicy := some "File"
    volumeMounts := some [
      { name := timezoneVolume, mountPath := localtime },
      { name := logsVolume app
        mountPath := (nonEmptyText? e.logPath).getD defaultLogPath }] }

def pod (app : CompositeApp) (e : VersionEntry) : PodSpec :=
  { containers := [container app e]
    volumes := some [Volume.ofHostPath timezoneVolume localtime, Volume.ofEmptyDir (logsVolume app)]
    restartPolicy := some "Always"
    dnsPolicy := some "ClusterFirst"
    schedulerName := some "default-scheduler"
    securityContext := some (.obj [])
    terminationGracePeriodSeconds :=
      some ((e.terminationGracePeriodSeconds.filter (0 < ·)).getD 30)
    imagePullSecrets := (nonEmptyText? e.imagePullSecret).map fun s => [.obj [("name", .str s)]]
    nodeSelector := nonEmptyLabels? e.nodeSelector
    hostAliases := nonEmpty? e.hostAliases
    affinity := e.affinity
    tolerations := nonEmpty? e.tolerations }

def freshDeployment (app : CompositeApp) (e : VersionEntry) : Deployment :=
  { metadata := app.versionMetadata e
    spec := some {
      replicas := some e.minReplicas
      progressDeadlineSeconds := some 600
      revisionHistoryLimit := some 10
      selector := { matchLabels := some (app.versionSelector e) }
      strategy := some (strategy e.rollout)
      template := {
        metadata := some {
          labels := some (Labels.merge (app.versionLabels e) e.templateLabels)
          annotations := nonEmptyLabels? (templateAnnotations e) }
        spec := some (pod app e) } } }

/-- The number of pods that are running, if the version allows it. -/
def keptReplicas? (e : VersionEntry) (observed : DeploymentSpec) : Option Int :=
  observed.replicas.filter fun n => e.minReplicas ≤ n && n ≤ e.maxReplicas

/-- The mark of the last restart, unless the entry gives one itself. -/
def keptRestartMark? (e : VersionEntry) (observed : DeploymentSpec) : Option String := do
  if e.restartMark ≠ "" then none
  (← (← observed.template.metadata).annotations)[restartMark]?

/-- The same limits and the same requests; the claims are not looked at. -/
def equivalentResources (a b : ResourceRequirements) : Bool :=
  Quantity.sameList a.limits b.limits && Quantity.sameList a.requests b.requests

def observedResources? (observed : DeploymentSpec) : Option ResourceRequirements := do
  (← (← observed.template.spec).containers.head?).resources

def keepResources (observed : DeploymentSpec) (c : Container) : Container :=
  match observedResources? observed with
  | some seen =>
    if equivalentResources (c.resources.getD {}) seen then { c with resources := some seen } else c
  | none => c

def keepRestartMark (mark : String) (m : ObjectMeta) : ObjectMeta :=
  { m with annotations := some ((m.annotations.getD ∅).insert restartMark mark) }

/-- Carries over to a new spec what may stay as it is on the running one. -/
def carryForward (e : VersionEntry) (observed wanted : DeploymentSpec) : DeploymentSpec :=
  let template := wanted.template
  { wanted with
    replicas := (keptReplicas? e observed).or wanted.replicas
    template := {
      metadata := match keptRestartMark? e observed with
        | some mark => some (keepRestartMark mark (template.metadata.getD {}))
        | none => template.metadata
      spec := template.spec.map fun p =>
        { p with containers := match p.containers with
            | [] => []
            | c :: rest => keepResources observed c :: rest } } }

def deployment (app : CompositeApp) (e : VersionEntry) (observed : Option Deployment) :
    Desired Deployment :=
  if e.isRemoved then .absent
  else
    let fresh := freshDeployment app e
    match observed.bind (·.spec) with
    | some seen => .present { fresh with spec := fresh.spec.map (carryForward e seen) }
    | none => .present fresh

end CompositeApps.Desired
