import ClusterGraph.Resource.Views
import ClusterGraph.Status.Error
import ClusterGraph.Store.Basic

/-!
The rules by which the well-known kinds are graded.

Every rule looks at one object and perhaps asks a store for others. It refuses an object that is empty,
of another kind, or not of the form of its kind.
-/

namespace ClusterGraph

open Json (Mismatch)

/-- Reports a fault in the form of an object. -/
def Object.converted {α : Type} (object : Object) (view : Object → Except Mismatch α) :
    Except StatusError α :=
  (view object).mapError (.conversion object.kind object.nameAny)

/-- The view of an object that has to be of a given kind. -/
def Object.viewAs {α : Type} (object : Object) (kind : ResourceKind)
    (view : Object → Except Mismatch α) : Except StatusError α :=
  if object.isEmpty then .error .missingObject
  else if object.isKind kind then object.converted view
  else .error (.wrongKind kind)

/-- What a store holds under a key; a failure is reported with the object for which it was asked. -/
def Object.lookUp (object : Object) (store : Store) (target : String) (key : ObjectKey) :
    Except StatusError (Option Object) :=
  (store.get key).mapError (.lookup object.kind object.nameAny target)

namespace Check

/-! ## Pods -/

/-- The reasons to wait that do not pass by themselves. -/
def stuckReasons : List String :=
  ["CrashLoopBackOff", "ImagePullBackOff", "ErrImagePull", "InvalidImageName",
    "CreateContainerConfigError"]

/-- The status of a pod by its phase. -/
def phaseStatus (view : PodView) : ObjectStatus :=
  match view.phase with
  | some "Running" => .said .ok "Pod is OK"
  | some "Succeeded" => .said .ok "Pod is OK"
  | some "Pending" => .said .warning "Pod is pending"
  | some "Failed" =>
    match view.reason with
    | some reason => .said .error ("Pod has failed: " ++ reason)
    | none => .said .error "Pod has failed"
  | _ => .said .warning "Pod status is unknown"

/-- The status of a pod: the first container that is stuck, or else the phase. -/
def pod (object : Object) : Except StatusError ObjectStatus := do
  let view ← object.viewAs .pod Object.asPod
  match view.waiting.find? (stuckReasons.contains ·.reason) with
  | some container =>
    pure (.said .error ("Container " ++ container.name ++ " is in " ++ container.reason))
  | none => pure (phaseStatus view)

/-! ## Services -/

/-- The status of a service: whether any endpoint address stands behind it. -/
def service (store : Store) (object : Object) : Except StatusError ObjectStatus := do
  let view ← object.viewAs .service Object.asService
  if view.isExternal then pure (.said .ok "Service is OK")
  else
    let name := object.nameAny
    let found ← object.lookUp store ("endpoints " ++ name)
      (.one object.namespaceName "v1" "Endpoints" name)
    let addresses ← match found with
      | some endpoints => endpoints.converted Object.endpointCount
      | none => pure 0
    if addresses = 0 then pure (.said .warning "Service has no endpoints")
    else pure (.said .ok "Service is OK")

/-! ## Ingresses -/

/-- Whether a service offers the port that a backend asks for: by name if it gives one, else by number,
else any. -/
def exposes (service : ServiceView) (port : BackendPort) : Bool :=
  match port.name, port.number with
  | some name, _ => service.ports.any (·.name == some name)
  | none, some number => service.ports.any (·.number == number)
  | none, none => true

/-- The problem with a backend, if there is one. -/
def backendProblem (store : Store) (object : Object) (backend : ServiceBackend) :
    Except StatusError (Option String) := do
  let found ← object.lookUp store ("service " ++ backend.name)
    (.one object.namespaceName "v1" "Service" backend.name)
  match found with
  | none =>
    pure (some ("Backend refers to service \"" ++ backend.name ++ "\" which does not exist"))
  | some service => do
    let view ← service.converted Object.asService
    if backend.port.all (exposes view) then pure none
    else
      pure (some ("Backend for service \"" ++ backend.name ++ "\" specifies an invalid port"))

/-- The problem with a secret that a TLS entry names, if there is one. -/
def secretProblem (store : Store) (object : Object) (name : String) :
    Except StatusError (Option String) := do
  let found ← object.lookUp store ("secret " ++ name)
    (.one object.namespaceName "v1" "Secret" name)
  if found.isNone then pure (some ("Secret \"" ++ name ++ "\" does not exist")) else pure none

/-- Of equal neighbours the first. -/
def dropRepeats : List String → List String
  | [] => []
  | [text] => [text]
  | first :: second :: rest =>
    if first = second then dropRepeats (second :: rest)
    else first :: dropRepeats (second :: rest)

/-- The status of an ingress: whether its backends and its secrets exist. -/
def ingress (store : Store) (object : Object) : Except StatusError ObjectStatus := do
  let view ← object.viewAs .ingress Object.asIngress
  if view.backends.isEmpty then
    pure (.said .error "Ingress does not define any rules or a default backend")
  else
    let backends ← view.services.mapM (backendProblem store object)
    let secrets ← view.secrets.mapM (secretProblem store object)
    let problems := (backends ++ secrets).filterMap id
    if problems.isEmpty then pure (.said .ok "Ingress is OK")
    else pure ⟨.error, (dropRepeats problems).map .text⟩

/-! ## Workloads -/

/-- The remark that some replicas are missing. -/
def missingReplicas (desired ready : Int) : ObjectStatus :=
  .said .warning
    ("Expected " ++ toString desired ++ " replicas, but " ++ toString ready ++ " are available")

/-- The status of a replication controller: whether exactly the desired replicas are ready. -/
def replicationController (object : Object) : Except StatusError ObjectStatus := do
  let object ← object.viewAs .replicationController fun object =>
    (object.conforms .replicationController).map fun _ => object
  let desired := (object.intAt? ["spec", "replicas"]).getD 1
  let ready := (object.intAt? ["status", "readyReplicas"]).getD 0
  if ready = desired then pure (.said .ok "Replication Controller is OK")
  else pure (missingReplicas desired ready)

/-- The status by replica counts: good once enough are ready. -/
def replicas (label : String) (desired ready : Int) : ObjectStatus :=
  if desired ≤ ready then .said .ok (label ++ " is OK") else missingReplicas desired ready

/-- The status of a job by its counts of pods. -/
def jobOutcome (failed succeeded active : Int) : ObjectStatus :=
  if 0 < failed then .said .error ("Job has " ++ toString failed ++ " failed pods")
  else if 0 < succeeded ∧ active = 0 then .said .ok "Job has completed"
  else .said .ok "Job is running"

/-- The status of a workload that conforms to the schema of its kind. -/
def workloadStatus (kind : ResourceKind) (object : Object) : ObjectStatus :=
  let desired := (object.intAt? ["spec", "replicas"]).getD 1
  let count := fun name => (object.intAt? ["status", name]).getD 0
  match kind with
  | .deployment => replicas "Deployment" desired (count "availableReplicas")
  | .replicaSet => replicas "Replica Set" desired (count "readyReplicas")
  | .statefulSet => replicas "Stateful Set" desired (count "readyReplicas")
  | .daemonSet => replicas "Daemon Set" (count "desiredNumberScheduled") (count "numberReady")
  | _ => jobOutcome (count "failed") (count "succeeded") (count "active")

/-- The schema of a workload kind. -/
def workloadSchema? : ResourceKind → Option Schema
  | .deployment => some .deployment
  | .replicaSet => some .replicaSet
  | .statefulSet => some .statefulSet
  | .daemonSet => some .daemonSet
  | .job => some .job
  | _ => none

/-- The status of a workload of the given kind. -/
def workload (kind : ResourceKind) (object : Object) : Except StatusError ObjectStatus :=
  match workloadSchema? kind with
  | none => .error (.wrongKind kind)
  | some schema =>
    object.viewAs kind fun object =>
      (object.conforms schema).map fun _ => workloadStatus kind object

end Check

/-- A rule for the objects of one kind. -/
inductive Checker where
  | pod
  | service
  | ingress
  | replicationController
  | workload (kind : ResourceKind)
  deriving DecidableEq, Repr, Inhabited

namespace Checker

/-- The status of an object by a rule. -/
def run (checker : Checker) (store : Store) (object : Object) : Except StatusError ObjectStatus :=
  match checker with
  | pod => Check.pod object
  | service => Check.service store object
  | ingress => Check.ingress store object
  | replicationController => Check.replicationController object
  | workload kind => Check.workload kind object

end Checker

end ClusterGraph
