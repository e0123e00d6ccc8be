import ClusterGraph.Resource.PodShape

/-!
The forms of the kinds whose content is read.

A schema fixes the API version and the shape of every field below the type and the metadata. `Object.conforms`
holds when an object has both; a fault anywhere in the shape counts, also in a field that nobody looks at.
Fields that the API version does not have are ignored.
-/

namespace ClusterGraph

open Json (Shape Mismatch)

/-- The form of one kind: its API version and the shapes of its fields. -/
structure Schema where
  apiVersion : String
  fields : List (String × Shape)

/-- Checks an object against a schema. The API version comes first, since its key does. -/
def Object.conforms (object : Object) (schema : Schema) : Except Mismatch Unit :=
  match object.type with
  | some type =>
    if type.apiVersion = schema.apiVersion then Shape.checkFields schema.fields object.data
    else .error (.invalidValue (.str type.apiVersion) schema.apiVersion)
  | none => Shape.checkFields schema.fields object.data

namespace Schema

/-- The form of pods. -/
def pod : Schema :=
  ⟨"v1", [("spec", podSpec), ("status", podStatus)]⟩

/-! ## Services, endpoints and ingresses -/

private def servicePort : Shape :=
  .record "ServicePort" <|
    texts ["appProtocol", "name", "protocol"] ++ counters ["nodePort", "port"] ++
      [("targetPort", .intOrText)]

private def serviceSpec : Shape :=
  .record "ServiceSpec" <|
    texts ["clusterIP", "externalName", "externalTrafficPolicy", "internalTrafficPolicy",
        "ipFamilyPolicy", "loadBalancerClass", "loadBalancerIP", "sessionAffinity",
        "trafficDistribution", "type"] ++
      textLists ["clusterIPs", "externalIPs", "ipFamilies", "loadBalancerSourceRanges"] ++
      flags ["allocateLoadBalancerNodePorts", "publishNotReadyAddresses"] ++
      [("healthCheckNodePort", .int32), ("ports", .list servicePort), ("selector", .dict .text),
        ("sessionAffinityConfig", .record "SessionAffinityConfig"
          [("clientIP", .record "ClientIPConfig" (counters ["timeoutSeconds"]))])]

private def portStatus (name : String) : Shape :=
  .record name (texts ["error", "protocol"] ++ counters ["port"])

private def serviceStatus : Shape :=
  .record "ServiceStatus"
    [("conditions", .list <| .record "Condition"
        (texts ["message", "reason", "status", "type"] ++
          [("lastTransitionTime", .timestamp), ("observedGeneration", .int64)])),
      ("loadBalancer", .record "LoadBalancerStatus"
        [("ingress", .list <| .record "LoadBalancerIngress"
          (texts ["hostname", "ip", "ipMode"] ++ [("ports", .list (portStatus "PortStatus"))]))])]

/-- The form of services. -/
def service : Schema :=
  ⟨"v1", [("spec", serviceSpec), ("status", serviceStatus)]⟩

private def endpointAddress : Shape :=
  .record "EndpointAddress" <|
    texts ["hostname", "ip", "nodeName"] ++
      [("targetRef", .record "ObjectReference"
        (texts ["apiVersion", "fieldPath", "kind", "name", "namespace", "resourceVersion", "uid"]))]

/-- The form of endpoints. -/
def endpoints : Schema :=
  ⟨"v1",
    [("subsets", .list <| .record "EndpointSubset"
      [("addresses", .list endpointAddress), ("notReadyAddresses", .list endpointAddress),
        ("ports", .list <| .record "EndpointPort"
          (texts ["appProtocol", "name", "protocol"] ++ counters ["port"]))])]⟩

private def ingressBackend : Shape :=
  .record "IngressBackend"
    [("resource", typedReference),
      ("service", .record "IngressServiceBackend"
        [("name", .text),
          ("port", .record "ServiceBackendPort" [("name", .text), ("number", .int32)])])]

private def ingressSpec : Shape :=
  .record "IngressSpec"
    [("defaultBackend", ingressBackend), ("ingressClassName", .text),
      ("rules", .list <| .record "IngressRule"
        [("host", .text),
          ("http", .record "HTTPIngressRuleValue"
            [("paths", .list <| .record "HTTPIngressPath"
              [("backend", ingressBackend), ("path", .text), ("pathType", .text)])])]),
      ("tls", .list <| .record "IngressTLS" [("hosts", .list .text), ("secretName", .text)])]

private def ingressStatus : Shape :=
  .record "IngressStatus"
    [("loadBalancer", .record "IngressLoadBalancerStatus"
      [("ingress", .list <| .record "IngressLoadBalancerIngress"
        (texts ["hostname", "ip"] ++ [("ports", .list (portStatus "IngressPortStatus"))]))])]

/-- The form of ingresses. -/
def ingress : Schema :=
  ⟨"networking.k8s.io/v1", [("spec", ingressSpec), ("status", ingressStatus)]⟩

/-! ## Workloads -/

/-- A specification with a pod template: its name, its counters and its other fields. -/
private def templated (name : String) (counts : List String) (others : List (String × Shape)) :
    Shape :=
  .record name (counters counts ++ others ++ [("template", podTemplate)])

/-- The status of a workload: its name, its counters and its conditions. -/
private def counted (name : String) (counts : List String) (condition : Shape) : Shape :=
  .record name (counters counts ++ [("conditions", condition), ("observedGeneration", .int64)])

/-- A strategy of updates: the name of its type, and the type and the fields of what it says about rolling
updates. -/
private def strategy (name update : String) (limits : List (String × Shape)) : Shape :=
  .record name [("rollingUpdate", .record update limits), ("type", .text)]

/-- The limits of a rolling update that may add and take away pods. -/
private def surge : List (String × Shape) :=
  each .intOrText ["maxSurge", "maxUnavailable"]

/-- The form of deployments. -/
def deployment : Schema :=
  ⟨"apps/v1",
    [("spec", templated "DeploymentSpec"
        ["minReadySeconds", "progressDeadlineSeconds", "replicas", "revisionHistoryLimit"]
        [("paused", .flag), ("selector", labelSelector),
          ("strategy", strategy "DeploymentStrategy" "RollingUpdateDeployment" surge)]),
      ("status", counted "DeploymentStatus"
        ["availableReplicas", "collisionCount", "readyReplicas", "replicas", "unavailableReplicas",
          "updatedReplicas"]
        (conditions "DeploymentCondition" ["lastTransitionTime", "lastUpdateTime"]))]⟩

/-- The form of replica sets. -/
def replicaSet : Schema :=
  ⟨"apps/v1",
    [("spec", templated "ReplicaSetSpec" ["minReadySeconds", "replicas"]
        [("selector", labelSelector)]),
      ("status", counted "ReplicaSetStatus"
        ["availableReplicas", "fullyLabeledReplicas", "readyReplicas", "replicas"]
        (conditions "ReplicaSetCondition" ["lastTransitionTime"]))]⟩

/-- The form of stateful sets. -/
def statefulSet : Schema :=
  ⟨"apps/v1",
    [("spec", templated "StatefulSetSpec" ["minReadySeconds", "replicas", "revisionHistoryLimit"]
        [("ordinals", .record "StatefulSetOrdinals" (counters ["start"])),
          ("persistentVolumeClaimRetentionPolicy",
            .record "StatefulSetPersistentVolumeClaimRetentionPolicy"
              (texts ["whenDeleted", "whenScaled"])),
          ("podManagementPolicy", .text), ("selector", labelSelector), ("serviceName", .text),
          ("updateStrategy", strategy "StatefulSetUpdateStrategy" "RollingUpdateStatefulSetStrategy"
            [("maxUnavailable", .intOrText), ("partition", .int32)]),
          ("volumeClaimTemplates", .list claim)]),
      ("status", .record "StatefulSetStatus"
        (counters ["availableReplicas", "collisionCount", "currentReplicas", "readyReplicas",
            "replicas", "updatedReplicas"] ++
          texts ["currentRevision", "updateRevision"] ++
          [("conditions", conditions "StatefulSetCondition" ["lastTransitionTime"]),
            ("observedGeneration", .int64)]))]⟩

/-- The form of daemon sets. -/
def daemonSet : Schema :=
  ⟨"apps/v1",
    [("spec", templated "DaemonSetSpec" ["minReadySeconds", "revisionHistoryLimit"]
        [("selector", labelSelector),
          ("updateStrategy", strategy "DaemonSetUpdateStrategy" "RollingUpdateDaemonSet" surge)]),
      ("status", counted "DaemonSetStatus"
        ["collisionCount", "currentNumberScheduled", "desiredNumberScheduled", "numberAvailable",
          "numberMisscheduled", "numberReady", "numberUnavailable", "updatedNumberScheduled"]
        (conditions "DaemonSetCondition" ["lastTransitionTime"]))]⟩

/-- The form of replication controllers. -/
def replicationController : Schema :=
  ⟨"v1",
    [("spec", templated "ReplicationControllerSpec" ["minReadySeconds", "replicas"]
        [("selector", .dict .text)]),
      ("status", counted "ReplicationControllerStatus"
        ["availableReplicas", "fullyLabeledReplicas", "readyReplicas", "replicas"]
        (conditions "ReplicationControllerCondition" ["lastTransitionTime"]))]⟩

/-- What is done about pods of a job that fail. -/
private def failurePolicy : Shape :=
  .record "PodFailurePolicy"
    [("rules", .list <| .record "PodFailurePolicyRule"
      [("action", .text),
        ("onExitCodes", .record "PodFailurePolicyOnExitCodesRequirement"
          (texts ["containerName", "operator"] ++ [("values", .list .int32)])),
        ("onPodConditions", .list <| .record "PodFailurePolicyOnPodConditionsPattern"
          (texts ["status", "type"]))])]

/-- The form of jobs. -/
def job : Schema :=
  ⟨"batch/v1",
    [("spec", templated "JobSpec"
        ["backoffLimit", "backoffLimitPerIndex", "completions", "maxFailedIndexes", "parallelism",
          "ttlSecondsAfterFinished"]
        (texts ["completionMode", "managedBy", "podReplacementPolicy"] ++
          [("activeDeadlineSeconds", .int64), ("manualSelector", .flag),
            ("podFailurePolicy", failurePolicy), ("selector", labelSelector),
            ("successPolicy", .record "SuccessPolicy"
              [("rules", .list <| .record "SuccessPolicyRule"
                [("succeededCount", .int32), ("succeededIndexes", .text)])]),
            ("suspend", .flag)])),
      ("status", .record "JobStatus"
        (counters ["active", "failed", "ready", "succeeded", "terminating"] ++
          texts ["completedIndexes", "failedIndexes"] ++ stamps ["completionTime", "startTime"] ++
          [("conditions", conditions "JobCondition" ["lastProbeTime", "lastTransitionTime"]),
            ("uncountedTerminatedPods", .record "UncountedTerminatedPods"
              (textLists ["failed", "succeeded"]))]))]⟩

end Schema

end ClusterGraph
