import ClusterGraph.Cluster.Server
import ClusterGraph.Proofs.Recording.Edges
import ClusterGraph.Viewer

/-!
# A small cluster

A replica set with two pods, and a service that picks them: the objects at which statements about all
clusters are applied.
-/

namespace ClusterGraph.Sample

/-- What is seen to succeed has a result. -/
theorem exists_eq_ok {ε α : Type} {result : Except ε α} (h : result.isOk = true) :
    ∃ value, result = .ok value := by
  cases result with
  | ok value => exact ⟨value, rfl⟩
  | error error => cases h

/-- A replica set that wants two replicas. -/
def replicaSet : Object where
  type := some ⟨"apps/v1", "ReplicaSet"⟩
  metadata := { name := some "web", namespaceName := some "default", uid := some "rs" }
  data := [("spec", .obj [("replicas", .int 2)])]

/-- A replica set that wants no replica. -/
def idle : Object where
  type := some ⟨"apps/v1", "ReplicaSet"⟩
  metadata := { name := some "old", namespaceName := some "default", uid := some "rs-old" }
  data := [("spec", .obj [("replicas", .int 0)])]

/-- The replica set that was deleted and made anew under its old name. -/
def renewed : Object :=
  { replicaSet with metadata := { replicaSet.metadata with uid := some "rs-new" } }

/-- A deployment that is there in the group that once served its kind. -/
def legacy : Object where
  type := some ⟨"extensions/v1beta1", "Deployment"⟩
  metadata := { name := some "web", namespaceName := some "default" }
  data :=
    [("spec", .obj [("replicas", .int 2), ("selector", .obj []), ("template", .obj [])]),
      ("status", .obj [("availableReplicas", .int 1)])]

/-- The same deployment in another group or version. -/
def served (apiVersion : String) : Object :=
  legacy.withType ⟨apiVersion, "Deployment"⟩

/-- A replication controller that wants some replicas and has some that are ready. -/
def controller (desired ready : Int) : Object where
  type := some ⟨"v1", "ReplicationController"⟩
  metadata := { name := some "legacy", namespaceName := some "default" }
  data :=
    [("spec", .obj [("replicas", .int desired)]), ("status", .obj [("readyReplicas", .int ready)])]

/-- A server that lists deployments, and no other kind in their group; it has one of them. -/
def server : Server := fun target =>
  if target = "/apis/apps/v1" then
    { body := "\x7b\"groupVersion\": \"apps/v1\", \"resources\": [\x7b\"kind\": \"Deployment\", " ++
        "\"name\": \"deployments\", \"namespaced\": true\x7d]\x7d" }
  else if target = "/apis/apps/v1/namespaces/default/deployments/web" then
    { body := "\x7b\"metadata\": \x7b\"name\": \"web\"\x7d\x7d" }
  else { status := 404, body := "" }

/-- A pod of the replica set. -/
def pod (uid : String) : Object where
  type := some ⟨"v1", "Pod"⟩
  metadata :=
    { name := some uid, namespaceName := some "default", uid := some uid
      labels := [("app", "web")]
      owners := [⟨"apps/v1", "ReplicaSet", "web", "rs", some true⟩] }
  data := []

/-- The key of the group of these pods. -/
def group : PodGroupKey where
  namespaceName := "default"
  ownerApiVersion := "apps/v1"
  ownerKind := "ReplicaSet"
  ownerName := "web"

theorem visibleId?_pod (uid : String) : (pod uid).visibleId? true = some group.nodeId := by
  -- the identifier of the pod does not matter for its kind
  have hkind : (pod uid).isKind .pod = true := by
    show (pod "").isKind .pod = true
    decide
  have hk : (pod uid).groupKey? true = some group := by
    rw [Object.groupKey?, hkind]
    rfl
  exact Object.visibleId?_of_groupKey? hk

/-- A pod of the replica set that has no name yet, only the beginning of one. -/
def unnamed (uid : String) : Object :=
  { pod uid with metadata := { (pod uid).metadata with name := none, generateName := some "web-" } }

/-- A service that picks pods by their label. -/
def service : Object where
  type := some ⟨"v1", "Service"⟩
  metadata := { name := some "web", namespaceName := some "default", uid := some "svc" }
  data := [("spec", .obj [("selector", .obj [("app", .str "web")])])]

/-- An ingress that leads to the service, by default and along a path. -/
def ingress : Object where
  type := some ⟨"networking.k8s.io/v1", "Ingress"⟩
  metadata := { name := some "front", namespaceName := some "default", uid := some "ing" }
  data :=
    let backend := Json.obj [("service", .obj [("name", .str "web")])]
    let path := Json.obj [("path", .str "/"), ("pathType", .str "Prefix"), ("backend", backend)]
    [("spec", .obj
      [("defaultBackend", backend),
        ("rules", .arr [.obj [("http", .obj [("paths", .arr [path])])]])])]

/-- A service that listens at one port. -/
def listening : Object :=
  { service with
    data := [("spec", .obj [("ports", .arr [.obj [("name", .str "http"), ("port", .int 80)]])])] }

/-- A backend that leads to a service, at the port of a given name. -/
def backendTo (service port : String) : Json :=
  .obj [("service", .obj [("name", .str service), ("port", .obj [("name", .str port)])])]

/-- An ingress with a default backend, backends for paths, and secrets for its encryption. -/
def entrance (default : Json) (others : List Json) (secrets : List String) : Object :=
  { ingress with
    data :=
      let paths := others.map fun backend => Json.obj [("backend", backend)]
      [("spec", .obj
        [("defaultBackend", default), ("rules", .arr [.obj [("http", .obj [("paths", .arr paths)])]]),
          ("tls", .arr (secrets.map fun name => .obj [("secretName", .str name)]))])] }

/-- A service that picks other pods. -/
def database : Object where
  type := some ⟨"v1", "Service"⟩
  metadata := { name := some "db", namespaceName := some "default", uid := some "svc-db" }
  data := [("spec", .obj [("selector", .obj [("app", .str "db")])])]

/-- A service that cannot be read. -/
def broken : Object where
  type := some ⟨"v1", "Service"⟩
  metadata := { name := some "other", namespaceName := some "default", uid := some "broken" }
  data := [("spec", .int 5)]

/-- A service with the identifier of the group of the pods. -/
def clashing : Object where
  type := some ⟨"v1", "Service"⟩
  metadata :=
    { name := some "other", namespaceName := some "default"
      uid := some "pods:7:default:7:apps/v1:10:ReplicaSet:3:web" }
  data := []

/-- A service of which only the name and the namespace are known. -/
def plain (namespaceName : String) : Object where
  type := some ⟨"v1", "Service"⟩
  metadata := { name := some "web", namespaceName := some namespaceName }
  data := []

/-- A config map that a pod of the replica set has made, and so owns. -/
def settings : Object where
  type := some ⟨"v1", "ConfigMap"⟩
  metadata :=
    { name := some "settings", namespaceName := some "default", uid := some "cm"
      owners := [⟨"v1", "Pod", "p1", "p1", none⟩] }
  data := []

/-- A replica set that one of its own pods owns. -/
def adopted : Object :=
  { replicaSet with
    metadata := { replicaSet.metadata with owners := [⟨"v1", "Pod", "p2", "p2", none⟩] } }

/-- A config map with an identifier of its own or not, owned by config maps of given names. -/
def tied (name uid : String) (owners : List (String × String)) : Object where
  type := some ⟨"v1", "ConfigMap"⟩
  metadata :=
    { name := some name, namespaceName := some "default", uid := some uid
      owners := owners.map fun (name, uid) => ⟨"v1", "ConfigMap", name, uid, none⟩ }
  data := []

/-- An object without type and name; every recording refuses it. -/
def nothing : Object where
  type := none
  metadata := {}
  data := []

/-- The replica set that its second pod owns is processed, its two pods are, and its relations with both
are reported. -/
def adoption : List Call :=
  [.process adopted, .process (pod "p1"), .process (pod "p2"), .edge adopted (pod "p1"),
    .edge adopted (pod "p2")]

/-- A relation of the service with a pod that is never processed, though another one of its group is. -/
def bypassed : List Call :=
  [.process service, .process (pod "p1"), .edge service (pod "p2")]

/-- Groups of pods, good health for everything, and the usual links. -/
def view : View where
  grouping := true
  resolver := fun _ => .ok {}
  layout := .standard

/-- The same view, with one pod in a bad state and the status of another one not to be found. -/
def alarm : View :=
  { view with
    resolver := fun object =>
      if object.id = "p1" then .ok { status := .error }
      else if object.id = "p2" then .error .missingObject
      else .ok {} }

/-- Rules of which the first and the last one fit a pod of the replica set; the second one is about another
kind, and the third one about another version. -/
def rules : List StatusRule :=
  [{ kind := "Pod", status := some .warning, details := ["pinned"] },
    { kind := "Deployment", status := some .error },
    { kind := "Pod", apiVersion := some "v2", status := some .error },
    { kind := "Pod", name := some "p1", details := ["first"] }]

/-- The store of the small cluster. -/
def store : Store where
  objects := [replicaSet, pod "p1", pod "p2", service]

/-- A store with a pod whose replica set is gone, and the service that picks it. -/
def pair : Store where
  objects := [pod "p1", service]

/-- A store with a service, a pod that it picks, and an ingress that leads to it. -/
def exposed : Store where
  objects := [service, pod "p1", ingress]

/-- The same object in another namespace. -/
def abroad (object : Object) : Object :=
  { object with metadata := { object.metadata with namespaceName := some "other" } }

/-- A store with a pod and the service that picks it, and with the controller of the pod and the service again
in another namespace. -/
def tenants : Store where
  objects := [abroad replicaSet, abroad service, pod "p1", service]

/-- A store with a pod and nothing else. -/
def lone : Store where
  objects := [pod "p1"]

/-- A store with a pod of the replica set that was there before. -/
def renewal : Store where
  objects := [renewed, pod "p1"]

/-- A store with a service of one name in each of two namespaces. -/
def twins : Store where
  objects := [plain "a", plain "b"]

/-- The first of three config maps: it owns itself, and the other two own it. -/
def first : Object :=
  tied "first" "a" [("first", "a"), ("second", "b"), ("third", "b")]

/-- Owned by the one that it owns. -/
def second : Object :=
  tied "second" "b" [("first", "a")]

/-- Another object with the identifier of the second one. -/
def third : Object :=
  tied "third" "b" []

/-- A store in which ownership leads round in circles, and two objects share an identifier. -/
def knot : Store where
  objects := [first, second, third]

end ClusterGraph.Sample
