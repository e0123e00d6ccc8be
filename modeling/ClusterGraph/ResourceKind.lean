import ClusterGraph.GroupKind

/-!
The well-known kinds.

Status rules, links and the traversal treat some kinds specially. Each is served from one or two
groups, the preferred one first; `ofGroupKind?` recognises an object of a well-known kind by its group
and kind.
-/

namespace ClusterGraph

/-- A kind that is treated specially. -/
inductive ResourceKind where
  | pod
  | deployment
  | replicaSet
  | replicationController
  | statefulSet
  | daemonSet
  | job
  | cronJob
  | service
  | ingress
  | configMap
  | secret
  | persistentVolumeClaim
  | serviceAccount
  deriving DecidableEq, Repr, Inhabited

namespace ResourceKind

/-- All well-known kinds. -/
def all : List ResourceKind :=
  [pod, deployment, replicaSet, replicationController, statefulSet, daemonSet, job, cronJob, service,
    ingress, configMap, secret, persistentVolumeClaim, serviceAccount]

/-- The name by which objects carry the kind. -/
def name : ResourceKind → String
  | pod => "Pod"
  | deployment => "Deployment"
  | replicaSet => "ReplicaSet"
  | replicationController => "ReplicationController"
  | statefulSet => "StatefulSet"
  | daemonSet => "DaemonSet"
  | job => "Job"
  | cronJob => "CronJob"
  | service => "Service"
  | ingress => "Ingress"
  | configMap => "ConfigMap"
  | secret => "Secret"
  | persistentVolumeClaim => "PersistentVolumeClaim"
  | serviceAccount => "ServiceAccount"

/-- The groups that serve the kind, the preferred one first. -/
def groups : ResourceKind → List String
  | deployment | replicaSet | daemonSet => ["apps", "extensions"]
  | statefulSet => ["apps"]
  | job | cronJob => ["batch"]
  | ingress => ["networking.k8s.io", "extensions"]
  | pod | replicationController | service | configMap | secret | persistentVolumeClaim
  | serviceAccount => [""]

/-- The preferred API version. -/
def apiVersion : ResourceKind → String
  | deployment | replicaSet | daemonSet | statefulSet => "apps/v1"
  | job | cronJob => "batch/v1"
  | ingress => "networking.k8s.io/v1"
  | pod | replicationController | service | configMap | secret | persistentVolumeClaim
  | serviceAccount => "v1"

/-- The part of the dashboard that shows objects of the kind. -/
def sectionPath : ResourceKind → String
  | pod => "workloads/pods"
  | deployment => "workloads/deployments"
  | replicaSet => "workloads/replica-sets"
  | replicationController => "workloads/replication-controllers"
  | statefulSet => "workloads/stateful-sets"
  | daemonSet => "workloads/daemon-sets"
  | job => "workloads/jobs"
  | cronJob => "workloads/cron-jobs"
  | service => "discovery-and-load-balancing/services"
  | ingress => "discovery-and-load-balancing/ingresses"
  | configMap => "config-and-storage/config-maps"
  | secret => "config-and-storage/secrets"
  | persistentVolumeClaim => "config-and-storage/persistent-volume-claims"
  | serviceAccount => "config-and-storage/service-accounts"

/-- The words other than its name that users may write for the kind: plural and short forms. -/
def aliases : ResourceKind → List String
  | pod => ["pods", "po"]
  | deployment => ["deployments", "deploy"]
  | replicaSet => ["replicasets", "rs"]
  | replicationController => ["replicationcontrollers", "rc"]
  | statefulSet => ["statefulsets", "sts"]
  | daemonSet => ["daemonsets", "ds"]
  | job => ["jobs"]
  | cronJob => ["cronjobs", "cj"]
  | service => ["services", "svc"]
  | ingress => ["ingresses", "ing"]
  | configMap => ["configmaps", "cm"]
  | secret => ["secrets"]
  | persistentVolumeClaim => ["persistentvolumeclaims", "pvc"]
  | serviceAccount => ["serviceaccounts", "sa"]

/-- The group and kind pairs under which the kind is served. -/
def groupKinds (kind : ResourceKind) : List GroupKind :=
  kind.groups.map fun group => ⟨group, kind.name⟩

/-- The kind with exactly the given name. -/
def ofName? (name : String) : Option ResourceKind :=
  all.find? (·.name == name)

/-- The wording for a name that is no well-known kind. -/
def unknownMessage (name : String) : String :=
  "Unknown resource kind: " ++ name

/-- The text with ASCII capitals as small letters. The words below are ASCII, and no other character
has one of their letters as its small form. -/
def lowered (s : String) : String :=
  String.ofList (s.toList.map Char.toLower)

/-- The kind that a user's word means: name, plural or short form in any case. -/
def ofWord? (word : String) : Option ResourceKind :=
  all.find? fun kind => (lowered kind.name :: kind.aliases).contains (lowered word)

/-- The well-known kind with the given name that is served from the given group. -/
def ofGroupKind? (gk : GroupKind) : Option ResourceKind :=
  (ofName? gk.kind).filter (·.groups.contains gk.group)

theorem name_injective {a b : ResourceKind} (h : a.name = b.name) : a = b := by
  revert h; cases a <;> cases b <;> decide

theorem ofName?_name (kind : ResourceKind) : ofName? kind.name = some kind := by
  cases kind <;> decide

end ResourceKind

end ClusterGraph
