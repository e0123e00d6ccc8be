import ClusterGraph.Json.Shape
import ClusterGraph.Object.Decode

/-!
The forms of pods, and of the claims on storage that go with them.

The tables list every field that the API version has, by its name, with the shape of its value. What a record
is called in messages is the name of its type. Quantities are texts here: whether a text spells a quantity is
not looked at.
-/

namespace ClusterGraph.Schema

open Json (Shape)

/-- Fields of one shape with the given names. -/
def each (shape : Shape) (names : List String) : List (String × Shape) :=
  names.map (·, shape)

/-- Text fields. -/
def texts : List String → List (String × Shape) := each .text

/-- Fields that hold lists of texts. -/
def textLists : List String → List (String × Shape) := each (.list .text)

/-- Fields that hold texts under names. -/
def textDicts : List String → List (String × Shape) := each (.dict .text)

/-- Flags. -/
def flags : List String → List (String × Shape) := each .flag

/-- Counters. -/
def counters : List String → List (String × Shape) := each .int32

/-- Numbers that may be large. -/
def numbers : List String → List (String × Shape) := each .int64

/-- Time stamps. -/
def stamps : List String → List (String × Shape) := each .timestamp

/-- Conditions of a type, with their times. -/
def conditions (name : String) (times : List String) : Shape :=
  .list <| .record name (texts ["message", "reason", "status", "type"] ++ stamps times)

/-- A choice of objects by their labels. -/
def labelSelector : Shape :=
  .record "LabelSelector"
    [("matchExpressions", .list <| .record "LabelSelectorRequirement"
        (texts ["key", "operator"] ++ textLists ["values"])),
      ("matchLabels", .dict .text)]

/-- A reference to an object of the same namespace, by its name. -/
def localReference : Shape :=
  .record "LocalObjectReference" (texts ["name"])

/-- A reference to an object of the same namespace, by its group, kind and name. -/
def typedReference : Shape :=
  .record "TypedLocalObjectReference" (texts ["apiGroup", "kind", "name"])

/-! ## Claims on storage -/

/-- What a claim on storage asks for. -/
def claimSpec : Shape :=
  .record "PersistentVolumeClaimSpec" <|
    texts ["storageClassName", "volumeAttributesClassName", "volumeMode", "volumeName"] ++
      [("accessModes", .list .text), ("dataSource", typedReference),
        ("dataSourceRef", .record "TypedObjectReference"
          (texts ["apiGroup", "kind", "name", "namespace"])),
        ("resources", .record "VolumeResourceRequirements" (textDicts ["limits", "requests"])),
        ("selector", labelSelector)]

/-- What a claim on storage was given. -/
def claimStatus : Shape :=
  .record "PersistentVolumeClaimStatus" <|
    texts ["currentVolumeAttributesClassName", "phase"] ++
      textDicts ["allocatedResourceStatuses", "allocatedResources", "capacity"] ++
      [("accessModes", .list .text),
        ("conditions",
          conditions "PersistentVolumeClaimCondition" ["lastProbeTime", "lastTransitionTime"]),
        ("modifyVolumeStatus", .record "ModifyVolumeStatus"
          (texts ["status", "targetVolumeAttributesClassName"]))]

/-- A claim on storage as it stands in another object: its type may be left out, but not be another one. -/
def claim : Shape :=
  .record "PersistentVolumeClaim"
    [("apiVersion", .exactly "v1"), ("kind", .exactly "PersistentVolumeClaim"),
      ("metadata", Object.metadataShape), ("spec", claimSpec), ("status", claimStatus)]

/-! ## Volumes -/

/-- Keys whose values become files. -/
def keyItems : Shape :=
  .list <| .record "KeyToPath" (texts ["key", "path"] ++ counters ["mode"])

/-- A field of the pod itself. -/
def fieldReference : Shape :=
  .record "ObjectFieldSelector" (texts ["apiVersion", "fieldPath"])

/-- A resource of a container. -/
def resourceReference : Shape :=
  .record "ResourceFieldSelector" (texts ["containerName", "divisor", "resource"])

/-- Facts about the pod that become files. -/
def downwardItems : Shape :=
  .list <| .record "DownwardAPIVolumeFile"
    [("fieldRef", fieldReference), ("mode", .int32), ("path", .text),
      ("resourceFieldRef", resourceReference)]

/-- A source of files among several. -/
def projection : Shape :=
  .record "VolumeProjection"
    [("clusterTrustBundle", .record "ClusterTrustBundleProjection"
        (texts ["name", "path", "signerName"] ++
          [("labelSelector", labelSelector), ("optional", .flag)])),
      ("configMap", .record "ConfigMapProjection"
        [("items", keyItems), ("name", .text), ("optional", .flag)]),
      ("downwardAPI", .record "DownwardAPIProjection" [("items", downwardItems)]),
      ("secret", .record "SecretProjection"
        [("items", keyItems), ("name", .text), ("optional", .flag)]),
      ("serviceAccountToken", .record "ServiceAccountTokenProjection"
        (texts ["audience", "path"] ++ numbers ["expirationSeconds"]))]

/-- Volumes whose content the cluster itself provides. -/
def clusterVolumes : List (String × Shape) :=
  [("configMap", .record "ConfigMapVolumeSource"
      [("defaultMode", .int32), ("items", keyItems), ("name", .text), ("optional", .flag)]),
    ("downwardAPI", .record "DownwardAPIVolumeSource"
      [("defaultMode", .int32), ("items", downwardItems)]),
    ("emptyDir", .record "EmptyDirVolumeSource" (texts ["medium", "sizeLimit"])),
    ("ephemeral", .record "EphemeralVolumeSource"
      [("volumeClaimTemplate", .record "PersistentVolumeClaimTemplate"
        [("metadata", Object.metadataShape), ("spec", claimSpec)])]),
    ("gitRepo", .record "GitRepoVolumeSource" (texts ["directory", "repository", "revision"])),
    ("hostPath", .record "HostPathVolumeSource" (texts ["path", "type"])),
    ("image", .record "ImageVolumeSource" (texts ["pullPolicy", "reference"])),
    ("persistentVolumeClaim", .record "PersistentVolumeClaimVolumeSource"
      [("claimName", .text), ("readOnly", .flag)]),
    ("projected", .record "ProjectedVolumeSource"
      [("defaultMode", .int32), ("sources", .list projection)]),
    ("secret", .record "SecretVolumeSource"
      [("defaultMode", .int32), ("items", keyItems), ("optional", .flag), ("secretName", .text)])]

/-- Volumes on disks and devices of a provider. -/
def diskVolumes : List (String × Shape) :=
  [("awsElasticBlockStore", .record "AWSElasticBlockStoreVolumeSource"
      (texts ["fsType", "volumeID"] ++ [("partition", .int32), ("readOnly", .flag)])),
    ("azureDisk", .record "AzureDiskVolumeSource"
      (texts ["cachingMode", "diskName", "diskURI", "fsType", "kind"] ++ flags ["readOnly"])),
    ("cinder", .record "CinderVolumeSource"
      (texts ["fsType", "volumeID"] ++ [("readOnly", .flag), ("secretRef", localReference)])),
    ("csi", .record "CSIVolumeSource"
      (texts ["driver", "fsType"] ++
        [("nodePublishSecretRef", localReference), ("readOnly", .flag),
          ("volumeAttributes", .dict .text)])),
    ("fc", .record "FCVolumeSource"
      (textLists ["targetWWNs", "wwids"] ++
        [("fsType", .text), ("lun", .int32), ("readOnly", .flag)])),
    ("flexVolume", .record "FlexVolumeSource"
      (texts ["driver", "fsType"] ++
        [("options", .dict .text), ("readOnly", .flag), ("secretRef", localReference)])),
    ("gcePersistentDisk", .record "GCEPersistentDiskVolumeSource"
      (texts ["fsType", "pdName"] ++ [("partition", .int32), ("readOnly", .flag)])),
    ("iscsi", .record "ISCSIVolumeSource"
      (texts ["fsType", "initiatorName", "iqn", "iscsiInterface", "targetPortal"] ++
        flags ["chapAuthDiscovery", "chapAuthSession", "readOnly"] ++
        [("lun", .int32), ("portals", .list .text), ("secretRef", localReference)])),
    ("photonPersistentDisk", .record "PhotonPersistentDiskVolumeSource" (texts ["fsType", "pdID"])),
    ("portworxVolume", .record "PortworxVolumeSource"
      (texts ["fsType", "volumeID"] ++ flags ["readOnly"])),
    ("rbd", .record "RBDVolumeSource"
      (texts ["fsType", "image", "keyring", "pool", "user"] ++
        [("monitors", .list .text), ("readOnly", .flag), ("secretRef", localReference)])),
    ("scaleIO", .record "ScaleIOVolumeSource"
      (texts ["fsType", "gateway", "protectionDomain", "storageMode", "storagePool", "system",
          "volumeName"] ++
        flags ["readOnly", "sslEnabled"] ++ [("secretRef", localReference)])),
    ("vsphereVolume", .record "VsphereVirtualDiskVolumeSource"
      (texts ["fsType", "storagePolicyID", "storagePolicyName", "volumePath"]))]

/-- Volumes on file systems that are shared over a network. -/
def networkVolumes : List (String × Shape) :=
  [("azureFile", .record "AzureFileVolumeSource"
      (texts ["secretName", "shareName"] ++ flags ["readOnly"])),
    ("cephfs", .record "CephFSVolumeSource"
      (texts ["path", "secretFile", "user"] ++
        [("monitors", .list .text), ("readOnly", .flag), ("secretRef", localReference)])),
    ("flocker", .record "FlockerVolumeSource" (texts ["datasetName", "datasetUUID"])),
    ("glusterfs", .record "GlusterfsVolumeSource"
      (texts ["endpoints", "path"] ++ flags ["readOnly"])),
    ("nfs", .record "NFSVolumeSource" (texts ["path", "server"] ++ flags ["readOnly"])),
    ("quobyte", .record "QuobyteVolumeSource"
      (texts ["group", "registry", "tenant", "user", "volume"] ++ flags ["readOnly"])),
    ("storageos", .record "StorageOSVolumeSource"
      (texts ["fsType", "volumeName", "volumeNamespace"] ++
        [("readOnly", .flag), ("secretRef", localReference)]))]

/-- A volume of a pod. -/
def volume : Shape :=
  .record "Volume" (texts ["name"] ++ clusterVolumes ++ diskVolumes ++ networkVolumes)

/-! ## Rights of a pod and of its containers -/

/-- A profile that limits a process, by its type. -/
def profile (name : String) : Shape :=
  .record name (texts ["localhostProfile", "type"])

/-- What pods and containers can say about the rights of their processes. -/
def rights : List (String × Shape) :=
  numbers ["runAsGroup", "runAsUser"] ++
    [("appArmorProfile", profile "AppArmorProfile"), ("runAsNonRoot", .flag),
      ("seLinuxOptions", .record "SELinuxOptions" (texts ["level", "role", "type", "user"])),
      ("seccompProfile", profile "SeccompProfile"),
      ("windowsOptions", .record "WindowsSecurityContextOptions"
        (texts ["gmsaCredentialSpec", "gmsaCredentialSpecName", "runAsUserName"] ++
          flags ["hostProcess"]))]

/-- The rights of a pod. -/
def podSecurityContext : Shape :=
  .record "PodSecurityContext" <|
    rights ++ texts ["fsGroupChangePolicy", "supplementalGroupsPolicy"] ++
      [("fsGroup", .int64), ("supplementalGroups", .list .int64),
        ("sysctls", .list <| .record "Sysctl" (texts ["name", "value"]))]

/-- The rights of a container. -/
def securityContext : Shape :=
  .record "SecurityContext" <|
    rights ++ flags ["allowPrivilegeEscalation", "privileged", "readOnlyRootFilesystem"] ++
      [("capabilities", .record "Capabilities" (textLists ["add", "drop"])), ("procMount", .text)]

/-! ## Containers -/

/-- A value of a key of another object. -/
def keySelector (name : String) : Shape :=
  .record name (texts ["key", "name"] ++ flags ["optional"])

/-- All values of another object. -/
def environmentSource (name : String) : Shape :=
  .record name [("name", .text), ("optional", .flag)]

/-- A variable of a container. -/
def environmentVariable : Shape :=
  .record "EnvVar" <|
    texts ["name", "value"] ++
      [("valueFrom", .record "EnvVarSource"
        [("configMapKeyRef", keySelector "ConfigMapKeySelector"), ("fieldRef", fieldReference),
          ("resourceFieldRef", resourceReference),
          ("secretKeyRef", keySelector "SecretKeySelector")])]

/-- The ways in which a container can be asked, by probes and at turns of its life. -/
def questions : List (String × Shape) :=
  [("exec", .record "ExecAction" (textLists ["command"])),
    ("httpGet", .record "HTTPGetAction"
      (texts ["host", "path", "scheme"] ++
        [("httpHeaders", .list <| .record "HTTPHeader" (texts ["name", "value"])),
          ("port", .intOrText)])),
    ("tcpSocket", .record "TCPSocketAction" [("host", .text), ("port", .intOrText)])]

/-- What is done at a turn of the life of a container. -/
def lifecycleHandler : Shape :=
  .record "LifecycleHandler"
    (questions ++ [("sleep", .record "SleepAction" (numbers ["seconds"]))])

/-- A question that is asked of a container again and again. -/
def probe : Shape :=
  .record "Probe" <|
    questions ++
      counters ["failureThreshold", "initialDelaySeconds", "periodSeconds", "successThreshold",
        "timeoutSeconds"] ++
      [("grpc", .record "GRPCAction" [("port", .int32), ("service", .text)]),
        ("terminationGracePeriodSeconds", .int64)]

/-- The resources that a container may use. -/
def resourceRequirements : Shape :=
  .record "ResourceRequirements" <|
    textDicts ["limits", "requests"] ++
      [("claims", .list <| .record "ResourceClaim" (texts ["name", "request"]))]

/-- The fields of a container. -/
def containerFields : List (String × Shape) :=
  texts ["image", "imagePullPolicy", "name", "restartPolicy", "terminationMessagePath",
      "terminationMessagePolicy", "workingDir"] ++
    textLists ["args", "command"] ++ flags ["stdin", "stdinOnce", "tty"] ++
    each probe ["livenessProbe", "readinessProbe", "startupProbe"] ++
    [("env", .list environmentVariable),
      ("envFrom", .list <| .record "EnvFromSource"
        [("configMapRef", environmentSource "ConfigMapEnvSource"), ("prefix", .text),
          ("secretRef", environmentSource "SecretEnvSource")]),
      ("lifecycle", .record "Lifecycle" (each lifecycleHandler ["postStart", "preStop"])),
      ("ports", .list <| .record "ContainerPort"
        (counters ["containerPort", "hostPort"] ++ texts ["hostIP", "name", "protocol"])),
      ("resizePolicy", .list <| .record "ContainerResizePolicy"
        (texts ["resourceName", "restartPolicy"])),
      ("resources", resourceRequirements), ("securityContext", securityContext),
      ("volumeDevices", .list <| .record "VolumeDevice" (texts ["devicePath", "name"])),
      ("volumeMounts", .list <| .record "VolumeMount"
        (texts ["mountPath", "mountPropagation", "name", "recursiveReadOnly", "subPath",
            "subPathExpr"] ++ flags ["readOnly"]))]

/-- A container. -/
def container : Shape :=
  .record "Container" containerFields

/-- A container that is added to a running pod, perhaps for the sake of another one. -/
def ephemeralContainer : Shape :=
  .record "EphemeralContainer" (containerFields ++ texts ["targetContainerName"])

/-! ## Where a pod may run -/

private def nodeRequirement : Shape :=
  .record "NodeSelectorRequirement" (texts ["key", "operator"] ++ textLists ["values"])

private def nodeTerm : Shape :=
  .record "NodeSelectorTerm" (each (.list nodeRequirement) ["matchExpressions", "matchFields"])

private def nodeAffinity : Shape :=
  .record "NodeAffinity"
    [("preferredDuringSchedulingIgnoredDuringExecution",
        .list <| .record "PreferredSchedulingTerm" [("preference", nodeTerm), ("weight", .int32)]),
      ("requiredDuringSchedulingIgnoredDuringExecution",
        .record "NodeSelector" [("nodeSelectorTerms", .list nodeTerm)])]

private def podTerm : Shape :=
  .record "PodAffinityTerm" <|
    textLists ["matchLabelKeys", "mismatchLabelKeys", "namespaces"] ++
      each labelSelector ["labelSelector", "namespaceSelector"] ++ texts ["topologyKey"]

private def podAffinity (name : String) : Shape :=
  .record name
    [("preferredDuringSchedulingIgnoredDuringExecution",
        .list <| .record "WeightedPodAffinityTerm"
          [("podAffinityTerm", podTerm), ("weight", .int32)]),
      ("requiredDuringSchedulingIgnoredDuringExecution", .list podTerm)]

/-- What decides on which node a pod may run. -/
def placement : List (String × Shape) :=
  [("affinity", .record "Affinity"
      [("nodeAffinity", nodeAffinity), ("podAffinity", podAffinity "PodAffinity"),
        ("podAntiAffinity", podAffinity "PodAntiAffinity")]),
    ("nodeName", .text), ("nodeSelector", .dict .text),
    ("schedulerName", .text),
    ("schedulingGates", .list <| .record "PodSchedulingGate" (texts ["name"])),
    ("tolerations", .list <| .record "Toleration"
      (texts ["effect", "key", "operator", "value"] ++ numbers ["tolerationSeconds"])),
    ("topologySpreadConstraints", .list <| .record "TopologySpreadConstraint"
      (texts ["nodeAffinityPolicy", "nodeTaintsPolicy", "topologyKey", "whenUnsatisfiable"] ++
        counters ["maxSkew", "minDomains"] ++
        [("labelSelector", labelSelector), ("matchLabelKeys", .list .text)]))]

/-! ## Pods -/

/-- What a pod is to be. -/
def podSpec : Shape :=
  .record "PodSpec" <|
    placement ++
      texts ["dnsPolicy", "hostname", "preemptionPolicy", "priorityClassName", "restartPolicy",
        "runtimeClassName", "serviceAccount", "serviceAccountName", "subdomain"] ++
      flags ["automountServiceAccountToken", "enableServiceLinks", "hostIPC", "hostNetwork", "hostPID",
        "hostUsers", "setHostnameAsFQDN", "shareProcessNamespace"] ++
      numbers ["activeDeadlineSeconds", "terminationGracePeriodSeconds"] ++
      each (.list container) ["containers", "initContainers"] ++
      [("dnsConfig", .record "PodDNSConfig"
          (textLists ["nameservers", "searches"] ++
            [("options", .list <| .record "PodDNSConfigOption" (texts ["name", "value"]))])),
        ("ephemeralContainers", .list ephemeralContainer),
        ("hostAliases", .list <| .record "HostAlias" [("hostnames", .list .text), ("ip", .text)]),
        ("imagePullSecrets", .list localReference), ("os", .record "PodOS" (texts ["name"])),
        ("overhead", .dict .text), ("priority", .int32),
        ("readinessGates", .list <| .record "PodReadinessGate" (texts ["conditionType"])),
        ("resourceClaims", .list <| .record "PodResourceClaim"
          (texts ["name", "resourceClaimName", "resourceClaimTemplateName"])),
        ("securityContext", podSecurityContext), ("volumes", .list volume)]

private def containerState : Shape :=
  .record "ContainerState"
    [("running", .record "ContainerStateRunning" (stamps ["startedAt"])),
      ("terminated", .record "ContainerStateTerminated"
        (texts ["containerID", "message", "reason"] ++ counters ["exitCode", "signal"] ++
          stamps ["finishedAt", "startedAt"])),
      ("waiting", .record "ContainerStateWaiting" (texts ["message", "reason"]))]

private def containerStatus : Shape :=
  .record "ContainerStatus" <|
    texts ["containerID", "image", "imageID", "name"] ++ flags ["ready", "started"] ++
      each containerState ["lastState", "state"] ++
      [("allocatedResources", .dict .text),
        ("allocatedResourcesStatus", .list <| .record "ResourceStatus"
          [("name", .text),
            ("resources", .list <| .record "ResourceHealth" (texts ["health", "resourceID"]))]),
        ("resources", resourceRequirements), ("restartCount", .int32),
        ("user", .record "ContainerUser"
          [("linux", .record "LinuxContainerUser"
            (numbers ["gid", "uid"] ++ [("supplementalGroups", .list .int64)]))]),
        ("volumeMounts", .list <| .record "VolumeMountStatus"
          (texts ["mountPath", "name", "recursiveReadOnly"] ++ flags ["readOnly"]))]

/-- What has become of a pod. -/
def podStatus : Shape :=
  .record "PodStatus" <|
    texts ["hostIP", "message", "nominatedNodeName", "phase", "podIP", "qosClass", "reason", "resize"] ++
      each (.list containerStatus)
        ["containerStatuses", "ephemeralContainerStatuses", "initContainerStatuses"] ++
      [("conditions", conditions "PodCondition" ["lastProbeTime", "lastTransitionTime"]),
        ("hostIPs", .list <| .record "HostIP" (texts ["ip"])),
        ("podIPs", .list <| .record "PodIP" (texts ["ip"])),
        ("resourceClaimStatuses", .list <| .record "PodResourceClaimStatus"
          (texts ["name", "resourceClaimName"])),
        ("startTime", .timestamp)]

/-- A pod that is still to be made. -/
def podTemplate : Shape :=
  .record "PodTemplateSpec" [("metadata", Object.metadataShape), ("spec", podSpec)]

end ClusterGraph.Schema
