import ClusterGraph.Link
import ClusterGraph.Object.Identity
import ClusterGraph.Status.Error

/-!
Nodes for single objects and for groups of pods.

Replica sets without desired replicas are never shown. An object whose status is not known counts as
good; one without a path cannot be shown, and that is an error.
-/

namespace ClusterGraph

/-- Why a graph could not be made. -/
inductive GraphError where
  | invalidObject (reason : String)
  | link (kind name : String) (error : LinkError)
  | duplicateNode (id : String)
  | cancelled
  deriving DecidableEq, Repr, Inhabited

namespace GraphError

/-- The wording of an error. -/
def message : GraphError → String
  | invalidObject reason => "invalid object: " ++ reason
  | link kind name error =>
    "unable to resolve path for " ++ kind ++ " " ++ name ++ ": " ++ error.message
  | duplicateNode id => "node id " ++ id ++ " is used by more than one node"
  | cancelled => "graph build cancelled"

/-- The wordings of the causes of an error. -/
def causes : GraphError → List String
  | link _ _ error => [error.message]
  | _ => []

end GraphError

namespace Object

/-- The number of replicas that an object wants; numbers beyond 64 bits do not count. -/
def desiredReplicas? (object : Object) : Option Int :=
  ((object.document.at? ["spec", "replicas"]).bind Json.int?).filter (· < Nat.pow 2 63)

/-- Whether the object is never shown: a replica set that wants no replicas. -/
def isSkipped (object : Object) : Bool :=
  object.isKind .replicaSet && object.desiredReplicas?.all (· < 1)

/-- The API version that is shown. Replica sets are always shown under their first one. -/
def displayApiVersion (object : Object) : String :=
  if object.isKind .replicaSet then "extensions/v1beta1" else object.apiVersion

end Object

/-- What becomes of an object. -/
inductive NodeOutcome where
  | rendered (node : Node)
  | skipped
  | failed (error : GraphError)
  deriving Inhabited

namespace NodeOutcome

/-- The outcome for one object, with given ways to find its status and its link. -/
def ofObject (resolver : StatusResolver) (layout : LinkResolver) (object : Object) : NodeOutcome :=
  if object.isSkipped then .skipped
  else
    match layout object object.nameAny [] with
    | .error error => .failed (.link object.kind object.nameAny error)
    | .ok path =>
      let status := resolver.orOk object
      .rendered
        { name := object.nameAny
          apiVersion := object.displayApiVersion
          kind := object.kind
          status := status.status
          details := status.details
          path := some path }

end NodeOutcome

namespace PodStatus

/-- The statuses of some pods under their names. -/
def ofPods (resolver : StatusResolver) (pods : List Object) : PodStatus :=
  pods.foldl (fun summaries pod =>
    let status := resolver.orOk pod
    summaries.add pod.nameAny ⟨status.details, status.status⟩) ∅

end PodStatus

/-- The node of a group of pods: the worst of their grades, each pod's status, and their number. -/
def Node.ofPods (resolver : StatusResolver) (name : String) (pods : List Object) : Node :=
  let summaries := PodStatus.ofPods resolver pods
  { name
    apiVersion := "v1"
    kind := "Pod"
    status := summaries.status
    details := [summaries.component, .text (toString summaries.size ++ " pods")]
    path := none }

end ClusterGraph
