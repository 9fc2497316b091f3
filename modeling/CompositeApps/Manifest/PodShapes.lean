import CompositeApps.Manifest.Metadata

/-!
Shapes of the parts of a pod that are only passed on: scheduling rules, volume sources, security
settings and the less common settings of a container.
-/

namespace CompositeApps.Shape

def localObjectReference : Shape :=
  object "LocalObjectReference" [req "name" text]

def labelSelector : Shape :=
  object "LabelSelector" [
    opt "matchExpressions" (list (object "LabelSelectorRequirement" [
      req "key" text, req "operator" text, opt "values" texts])),
    opt "matchLabels" textDict]

def nodeSelectorTerm : Shape :=
  let requirement := object "NodeSelectorRequirement" [
    req "key" text, req "operator" text, opt "values" texts]
  object "NodeSelectorTerm" [
    opt "matchExpressions" (list requirement), opt "matchFields" (list requirement)]

def nodeAffinity : Shape :=
  object "NodeAffinity" [
    opt "preferredDuringSchedulingIgnoredDuringExecution" (list (object "PreferredSchedulingTerm" [
      req "preference" nodeSelectorTerm, req "weight" int32])),
    opt "requiredDuringSchedulingIgnoredDuringExecution" (object "NodeSelector" [
      req "nodeSelectorTerms" (list nodeSelectorTerm)])]

def podAffinityTerm : Shape :=
  object "PodAffinityTerm" [
    opt "labelSelector" labelSelector, opt "matchLabelKeys" texts, opt "mismatchLabelKeys" texts,
    opt "namespaceSelector" labelSelector, opt "namespaces" texts, req "topologyKey" text]

def podAffinityFields : Table := [
  opt "preferredDuringSchedulingIgnoredDuringExecution" (list (object "WeightedPodAffinityTerm" [
    req "podAffinityTerm" podAffinityTerm, req "weight" int32])),
  opt "requiredDuringSchedulingIgnoredDuringExecution" (list podAffinityTerm)]

def affinity : Shape :=
  object "Affinity" [
    opt "nodeAffinity" nodeAffinity,
    opt "podAffinity" (object "PodAffinity" podAffinityFields),
    opt "podAntiAffinity" (object "PodAntiAffinity" podAffinityFields)]

def toleration : Shape :=
  object "Toleration" [
    opt "effect" text, opt "key" text, opt "operator" text, opt "tolerationSeconds" int64,
    opt "value" text]

def hostAlias : Shape :=
  object "HostAlias" [opt "hostnames" texts, req "ip" text]

def resourceClaim : Shape :=
  object "ResourceClaim" [req "name" text, opt "request" text]

def resourceRequirements : Shape :=
  object "ResourceRequirements" [
    opt "claims" (list resourceClaim), opt "limits" textDict, opt "requests" textDict]

def resourceFieldSelector : Shape :=
  object "ResourceFieldSelector" [
    opt "containerName" text, opt "divisor" text, req "resource" text]

def objectFieldSelector : Shape :=
  object "ObjectFieldSelector" [opt "apiVersion" text, req "fieldPath" text]

def keySelectorFields : Table := [req "key" text, req "name" text, opt "optional" boolean]

def configMapKeySelector : Shape :=
  object "ConfigMapKeySelector" keySelectorFields

def secretKeySelector : Shape :=
  object "SecretKeySelector" keySelectorFields

def envSourceFields : Table := [req "name" text, opt "optional" boolean]

def envFromSource : Shape :=
  object "EnvFromSource" [
    opt "configMapRef" (object "ConfigMapEnvSource" envSourceFields), opt "prefix" text,
    opt "secretRef" (object "SecretEnvSource" envSourceFields)]

def execAction : Shape :=
  object "ExecAction" [opt "command" texts]

def httpGetAction : Shape :=
  object "HTTPGetAction" [
    opt "host" text,
    opt "httpHeaders" (list (object "HTTPHeader" [req "name" text, req "value" text])),
    opt "path" text, req "port" intOrText, opt "scheme" text]

def tcpSocketAction : Shape :=
  object "TCPSocketAction" [opt "host" text, req "port" intOrText]

def grpcAction : Shape :=
  object "GRPCAction" [req "port" int32, opt "service" text]

def probe : Shape :=
  object "Probe" [
    opt "exec" execAction, opt "failureThreshold" int32, opt "grpc" grpcAction,
    opt "httpGet" httpGetAction, opt "initialDelaySeconds" int32, opt "periodSeconds" int32,
    opt "successThreshold" int32, opt "tcpSocket" tcpSocketAction,
    opt "terminationGracePeriodSeconds" int64, opt "timeoutSeconds" int32]

def lifecycle : Shape :=
  let handler := object "LifecycleHandler" [
    opt "exec" execAction, opt "httpGet" httpGetAction,
    opt "sleep" (object "SleepAction" [req "seconds" int64]), opt "tcpSocket" tcpSocketAction]
  object "Lifecycle" [opt "postStart" handler, opt "preStop" handler]

def profileFields : Table := [opt "localhostProfile" text, req "type" text]

def appArmorProfile : Shape :=
  object "AppArmorProfile" profileFields

def seccompProfile : Shape :=
  object "SeccompProfile" profileFields

def seLinuxOptions : Shape :=
  object "SELinuxOptions" [opt "level" text, opt "role" text, opt "type" text, opt "user" text]

def windowsOptions : Shape :=
  object "WindowsSecurityContextOptions" [
    opt "gmsaCredentialSpec" text, opt "gmsaCredentialSpecName" text, opt "hostProcess" boolean,
    opt "runAsUserName" text]

def securityContext : Shape :=
  object "SecurityContext" [
    opt "allowPrivilegeEscalation" boolean, opt "appArmorProfile" appArmorProfile,
    opt "capabilities" (object "Capabilities" [opt "add" texts, opt "drop" texts]),
    opt "privileged" boolean, opt "procMount" text, opt "readOnlyRootFilesystem" boolean,
    opt "runAsGroup" int64, opt "runAsNonRoot" boolean, opt "runAsUser" int64,
    opt "seLinuxOptions" seLinuxOptions, opt "seccompProfile" seccompProfile,
    opt "windowsOptions" windowsOptions]

def podSecurityContext : Shape :=
  object "PodSecurityContext" [
    opt "appArmorProfile" appArmorProfile, opt "fsGroup" int64, opt "fsGroupChangePolicy" text,
    opt "runAsGroup" int64, opt "runAsNonRoot" boolean, opt "runAsUser" int64,
    opt "seLinuxChangePolicy" text, opt "seLinuxOptions" seLinuxOptions,
    opt "seccompProfile" seccompProfile, opt "supplementalGroups" (list int64),
    opt "supplementalGroupsPolicy" text,
    opt "sysctls" (list (object "Sysctl" [req "name" text, req "value" text])),
    opt "windowsOptions" windowsOptions]

def containerPort : Shape :=
  object "ContainerPort" [
    req "containerPort" int32, opt "hostIP" text, opt "hostPort" int32, opt "name" text,
    opt "protocol" text]

def volumeMount : Shape :=
  object "VolumeMount" [
    req "mountPath" text, opt "mountPropagation" text, req "name" text, opt "readOnly" boolean,
    opt "recursiveReadOnly" text, opt "subPath" text, opt "subPathExpr" text]

def envVar : Shape :=
  object "EnvVar" [
    req "name" text, opt "value" text,
    opt "valueFrom" (object "EnvVarSource" [
      opt "configMapKeyRef" configMapKeySelector, opt "fieldRef" objectFieldSelector,
      opt "resourceFieldRef" resourceFieldSelector, opt "secretKeyRef" secretKeySelector])]

def containerExtra : Table := [
  opt "args" texts, opt "command" texts, opt "envFrom" (list envFromSource),
  opt "lifecycle" lifecycle,
  opt "resizePolicy" (list (object "ContainerResizePolicy" [
    req "resourceName" text, req "restartPolicy" text])),
  opt "restartPolicy" text, opt "securityContext" securityContext, opt "startupProbe" probe,
  opt "stdin" boolean, opt "stdinOnce" boolean, opt "tty" boolean,
  opt "volumeDevices" (list (object "VolumeDevice" [req "devicePath" text, req "name" text])),
  opt "workingDir" text]

def ephemeralContainer : Shape :=
  object "EphemeralContainer" (containerExtra ++ [
    opt "env" (list envVar), opt "image" text, opt "imagePullPolicy" text,
    opt "livenessProbe" probe, req "name" text, opt "ports" (list containerPort),
    opt "readinessProbe" probe, opt "resources" resourceRequirements,
    opt "targetContainerName" text, opt "terminationMessagePath" text,
    opt "terminationMessagePolicy" text, opt "volumeMounts" (list volumeMount)])

/-- A container that is only passed on, such as one that runs before the others. -/
def container : Shape :=
  object "Container" (containerExtra ++ [
    opt "env" (list envVar), opt "image" text, opt "imagePullPolicy" text,
    opt "livenessProbe" probe, req "name" text, opt "ports" (list containerPort),
    opt "readinessProbe" probe, opt "resources" resourceRequirements,
    opt "terminationMessagePath" text, opt "terminationMessagePolicy" text,
    opt "volumeMounts" (list volumeMount)])

def keyToPaths : Shape :=
  list (object "KeyToPath" [req "key" text, opt "mode" int32, req "path" text])

def downwardFiles : Shape :=
  list (object "DownwardAPIVolumeFile" [
    opt "fieldRef" objectFieldSelector, opt "mode" int32, req "path" text,
    opt "resourceFieldRef" resourceFieldSelector])

def metadata : Shape :=
  object "ObjectMeta" [
    opt "annotations" textDict, opt "creationTimestamp" timestamp,
    opt "deletionGracePeriodSeconds" int64, opt "deletionTimestamp" timestamp,
    opt "finalizers" texts, opt "generateName" text, opt "generation" int64,
    opt "labels" textDict, opt "managedFields" (list ObjectMeta.managedFieldsEntry),
    opt "name" text, opt "namespace" text,
    opt "ownerReferences" (list (object "OwnerReference" [
      req "apiVersion" text, opt "blockOwnerDeletion" boolean, opt "controller" boolean,
      req "kind" text, req "name" text, req "uid" text])),
    opt "resourceVersion" text, opt "selfLink" text, opt "uid" text]

def claimTemplate : Shape :=
  object "PersistentVolumeClaimTemplate" [
    opt "metadata" metadata,
    req "spec" (object "PersistentVolumeClaimSpec" [
      opt "accessModes" texts,
      opt "dataSource" (object "TypedLocalObjectReference" [
        opt "apiGroup" text, req "kind" text, req "name" text]),
      opt "dataSourceRef" (object "TypedObjectReference" [
        opt "apiGroup" text, req "kind" text, req "name" text, opt "namespace" text]),
      opt "resources" (object "VolumeResourceRequirements" [
        opt "limits" textDict, opt "requests" textDict]),
      opt "selector" labelSelector, opt "storageClassName" text,
      opt "volumeAttributesClassName" text, opt "volumeMode" text, opt "volumeName" text])]

def projection : Shape :=
  object "VolumeProjection" [
    opt "clusterTrustBundle" (object "ClusterTrustBundleProjection" [
      opt "labelSelector" labelSelector, opt "name" text, opt "optional" boolean, req "path" text,
      opt "signerName" text]),
    opt "configMap" (object "ConfigMapProjection" [
      opt "items" keyToPaths, req "name" text, opt "optional" boolean]),
    opt "downwardAPI" (object "DownwardAPIProjection" [opt "items" downwardFiles]),
    opt "secret" (object "SecretProjection" [
      opt "items" keyToPaths, req "name" text, opt "optional" boolean]),
    opt "serviceAccountToken" (object "ServiceAccountTokenProjection" [
      opt "audience" text, opt "expirationSeconds" int64, req "path" text])]

/-- Where the content of a volume comes from; a volume has one of these. -/
def volumeSources : Table := [
  opt "awsElasticBlockStore" (object "AWSElasticBlockStoreVolumeSource" [
    opt "fsType" text, opt "partition" int32, opt "readOnly" boolean, req "volumeID" text]),
  opt "azureDisk" (object "AzureDiskVolumeSource" [
    opt "cachingMode" text, req "diskName" text, req "diskURI" text, opt "fsType" text,
    opt "kind" text, opt "readOnly" boolean]),
  opt "azureFile" (object "AzureFileVolumeSource" [
    opt "readOnly" boolean, req "secretName" text, req "shareName" text]),
  opt "cephfs" (object "CephFSVolumeSource" [
    req "monitors" texts, opt "path" text, opt "readOnly" boolean, opt "secretFile" text,
    opt "secretRef" localObjectReference, opt "user" text]),
  opt "cinder" (object "CinderVolumeSource" [
    opt "fsType" text, opt "readOnly" boolean, opt "secretRef" localObjectReference,
    req "volumeID" text]),
  opt "configMap" (object "ConfigMapVolumeSource" [
    opt "defaultMode" int32, opt "items" keyToPaths, req "name" text, opt "optional" boolean]),
  opt "csi" (object "CSIVolumeSource" [
    req "driver" text, opt "fsType" text, opt "nodePublishSecretRef" localObjectReference,
    opt "readOnly" boolean, opt "volumeAttributes" textDict]),
  opt "downwardAPI" (object "DownwardAPIVolumeSource" [
    opt "defaultMode" int32, opt "items" downwardFiles]),
  opt "emptyDir" (object "EmptyDirVolumeSource" [opt "medium" text, opt "sizeLimit" text]),
  opt "ephemeral" (object "EphemeralVolumeSource" [opt "volumeClaimTemplate" claimTemplate]),
  opt "fc" (object "FCVolumeSource" [
    opt "fsType" text, opt "lun" int32, opt "readOnly" boolean, opt "targetWWNs" texts,
    opt "wwids" texts]),
  opt "flexVolume" (object "FlexVolumeSource" [
    req "driver" text, opt "fsType" text, opt "options" textDict, opt "readOnly" boolean,
    opt "secretRef" localObjectReference]),
  opt "flocker" (object "FlockerVolumeSource" [opt "datasetName" text, opt "datasetUUID" text]),
  opt "gcePersistentDisk" (object "GCEPersistentDiskVolumeSource" [
    opt "fsType" text, opt "partition" int32, req "pdName" text, opt "readOnly" boolean]),
  opt "gitRepo" (object "GitRepoVolumeSource" [
    opt "directory" text, req "repository" text, opt "revision" text]),
  opt "glusterfs" (object "GlusterfsVolumeSource" [
    req "endpoints" text, req "path" text, opt "readOnly" boolean]),
  opt "hostPath" (object "HostPathVolumeSource" [req "path" text, opt "type" text]),
  opt "image" (object "ImageVolumeSource" [opt "pullPolicy" text, opt "reference" text]),
  opt "iscsi" (object "ISCSIVolumeSource" [
    opt "chapAuthDiscovery" boolean, opt "chapAuthSession" boolean, opt "fsType" text,
    opt "initiatorName" text, req "iqn" text, opt "iscsiInterface" text, req "lun" int32,
    opt "portals" texts, opt "readOnly" boolean, opt "secretRef" localObjectReference,
    req "targetPortal" text]),
  opt "nfs" (object "NFSVolumeSource" [req "path" text, opt "readOnly" boolean, req "server" text]),
  opt "persistentVolumeClaim" (object "PersistentVolumeClaimVolumeSource" [
    req "claimName" text, opt "readOnly" boolean]),
  opt "photonPersistentDisk" (object "PhotonPersistentDiskVolumeSource" [
    opt "fsType" text, req "pdID" text]),
  opt "portworxVolume" (object "PortworxVolumeSource" [
    opt "fsType" text, opt "readOnly" boolean, req "volumeID" text]),
  opt "projected" (object "ProjectedVolumeSource" [
    opt "defaultMode" int32, opt "sources" (list projection)]),
  opt "quobyte" (object "QuobyteVolumeSource" [
    opt "group" text, opt "readOnly" boolean, req "registry" text, opt "tenant" text,
    opt "user" text, req "volume" text]),
  opt "rbd" (object "RBDVolumeSource" [
    opt "fsType" text, req "image" text, opt "keyring" text, req "monitors" texts,
    opt "pool" text, opt "readOnly" boolean, opt "secretRef" localObjectReference,
    opt "user" text]),
  opt "scaleIO" (object "ScaleIOVolumeSource" [
    opt "fsType" text, req "gateway" text, opt "protectionDomain" text, opt "readOnly" boolean,
    req "secretRef" localObjectReference, opt "sslEnabled" boolean, opt "storageMode" text,
    opt "storagePool" text, req "system" text, opt "volumeName" text]),
  opt "secret" (object "SecretVolumeSource" [
    opt "defaultMode" int32, opt "items" keyToPaths, opt "optional" boolean,
    opt "secretName" text]),
  opt "storageos" (object "StorageOSVolumeSource" [
    opt "fsType" text, opt "readOnly" boolean, opt "secretRef" localObjectReference,
    opt "volumeName" text, opt "volumeNamespace" text]),
  opt "vsphereVolume" (object "VsphereVirtualDiskVolumeSource" [
    opt "fsType" text, opt "storagePolicyID" text, opt "storagePolicyName" text,
    req "volumePath" text])]

def podExtra : Table := [
  opt "activeDeadlineSeconds" int64, opt "automountServiceAccountToken" boolean,
  opt "dnsConfig" (object "PodDNSConfig" [
    opt "nameservers" texts,
    opt "options" (list (object "PodDNSConfigOption" [opt "name" text, opt "value" text])),
    opt "searches" texts]),
  opt "enableServiceLinks" boolean, opt "ephemeralContainers" (list ephemeralContainer),
  opt "hostIPC" boolean, opt "hostNetwork" boolean, opt "hostPID" boolean,
  opt "hostUsers" boolean, opt "hostname" text, opt "initContainers" (list container),
  opt "nodeName" text, opt "os" (object "PodOS" [req "name" text]), opt "overhead" textDict,
  opt "preemptionPolicy" text, opt "priority" int32, opt "priorityClassName" text,
  opt "readinessGates" (list (object "PodReadinessGate" [req "conditionType" text])),
  opt "resourceClaims" (list (object "PodResourceClaim" [
    req "name" text, opt "resourceClaimName" text, opt "resourceClaimTemplateName" text])),
  opt "resources" resourceRequirements, opt "runtimeClassName" text,
  opt "schedulingGates" (list (object "PodSchedulingGate" [req "name" text])),
  opt "serviceAccount" text, opt "serviceAccountName" text, opt "setHostnameAsFQDN" boolean,
  opt "shareProcessNamespace" boolean, opt "subdomain" text,
  opt "topologySpreadConstraints" (list (object "TopologySpreadConstraint" [
    opt "labelSelector" labelSelector, opt "matchLabelKeys" texts, req "maxSkew" int32,
    opt "minDomains" int32, opt "nodeAffinityPolicy" text, opt "nodeTaintsPolicy" text,
    req "topologyKey" text, req "whenUnsatisfiable" text]))]

end CompositeApps.Shape
