import ClusterGraph.Graph.Render
import ClusterGraph.Resource.Views
import ClusterGraph.Store.Basic

/-!
Which objects of a store an object is related to.

An object is related to its owners and to the children that it owns, a service to the pods that its
selector picks and to the ingresses that lead to it, an ingress to the services behind it, and a pod
to the services that select it and to whatever it mentions by name. Every question to the store is
confined to the namespace of the object.
-/

namespace ClusterGraph

/-- Why a traversal ended early. -/
inductive VisitError where
  | store (kind name : String) (error : StoreError)
  | graph (error : GraphError)
  | conversion (kind name : String) (fault : Json.Mismatch)
  | cancelled
  deriving Repr, Inhabited

namespace VisitError

/-- The wording of an error; one about the graph speaks for itself. -/
def message : VisitError → String
  | store kind name error =>
    "unable to load objects related to " ++ kind ++ " " ++ name ++ ": " ++ error.message
  | graph error => error.message
  | conversion kind name fault => "unable to read " ++ kind ++ " " ++ name ++ ": " ++ fault.message
  | cancelled => "traversal cancelled"

/-- The wordings of the causes of an error, from the nearest on. -/
def causes : VisitError → List String
  | store _ _ error => error.message :: error.causes
  | graph error => error.causes
  | conversion _ _ fault => [fault.message]
  | cancelled => []

end VisitError

/-- A related object and the direction of the relation. -/
inductive Relation where
  /-- From the related object to the visited one. -/
  | incoming (object : Object)
  /-- From the visited object to the related one. -/
  | outgoing (object : Object)
  deriving Inhabited

namespace Relation

/-- The related object. -/
def object : Relation → Object
  | incoming object => object
  | outgoing object => object

/-- The two ends of the relation, the one that it comes from first. -/
def ends (visited : Object) : Relation → Object × Object
  | incoming object => (object, visited)
  | outgoing object => (visited, object)

end Relation

/-- Texts in ascending order, each once. -/
def ascending (texts : List String) : List String :=
  (Std.ExtTreeSet.ofList texts compare).toList

namespace Store

/-- What the store holds under a key; a failure is reported with the visited object. -/
def fetch (store : Store) (visited : Object) (key : ObjectKey) :
    Except VisitError (Option Object) :=
  (store.get key).mapError (.store visited.kind visited.nameAny)

/-- All objects of the store under a key; a failure is reported with the visited object. -/
def fetchAll (store : Store) (visited : Object) (key : ObjectKey) :
    Except VisitError (List Object) :=
  (store.list key).mapError (.store visited.kind visited.nameAny)

/-- The view of an object whose form matters for the traversal. -/
def read {α : Type} (object : Object) (view : Object → Except Json.Mismatch α) :
    Except VisitError α :=
  (view object).mapError (.conversion object.kind object.nameAny)

/-- The objects of given kinds and names in the namespace of the visited object, as far as they
exist. -/
def fetchNamed (store : Store) (visited : Object) (keys : List ObjectKey) :
    Except VisitError (List Object) := do
  let found ← keys.mapM (store.fetch visited)
  pure (found.filterMap id)

/-- The objects of a list of which a view satisfies a test. -/
def keepViewed {α : Type} (objects : List Object) (view : Object → Except Json.Mismatch α)
    (test : α → Bool) : Except VisitError (List Object) := do
  let tested ← objects.mapM fun object => do pure (object, test (← read object view))
  pure ((tested.filter (·.2)).map (·.1))

/-- The owners that the owner references of an object name. -/
def ownersOf (store : Store) (object : Object) : Except VisitError (List Object) :=
  store.fetchNamed object <| object.owners.map fun reference =>
    .one object.namespaceName reference.apiVersion reference.kind reference.name

/-- The kind of the children that objects of a kind own. -/
def childKind? : ResourceKind → Option ResourceKind
  | .deployment => some .replicaSet
  | .cronJob => some .job
  | .replicaSet | .replicationController | .statefulSet | .daemonSet | .job => some .pod
  | _ => none

/-- The children that an object owns. -/
def childrenOf (store : Store) (object : Object) : Except VisitError (List Object) :=
  match (ResourceKind.ofGroupKind? object.groupKind).bind childKind? with
  | none => .ok []
  | some kind => do
    let candidates ← store.fetchAll object
      (.every object.namespaceName kind.apiVersion kind.name)
    pure (candidates.filter (·.isOwnedBy object))

/-- The pods that the selector of a service picks; a service without selector picks none. -/
def selectedPods (store : Store) (service : Object) : Except VisitError (List Object) := do
  let view ← read service Object.asService
  if view.selector.isEmpty then pure []
  else
    store.fetchAll service
      ((ObjectKey.every service.namespaceName "v1" "Pod").withSelector view.selector)

/-- Whether a selector picks objects with some labels; the empty one picks none. -/
def selects (selector labels : List (String × String)) : Bool :=
  !selector.isEmpty && carries labels selector

/-- The services whose selectors pick a pod. -/
def selectingServices (store : Store) (pod : Object) : Except VisitError (List Object) := do
  let services ← store.fetchAll pod (.every pod.namespaceName "v1" "Service")
  keepViewed services Object.asService fun view => selects view.selector pod.labels

/-- The names of the services behind an ingress, ascending. -/
def backendNames (ingress : IngressView) : List String :=
  ascending (ingress.services.map (·.name))

/-- The services behind an ingress. -/
def backendServices (store : Store) (ingress : Object) : Except VisitError (List Object) := do
  let view ← read ingress Object.asIngress
  store.fetchNamed ingress <| (backendNames view).map fun name =>
    .one ingress.namespaceName "v1" "Service" name

/-- The ingresses that lead to a service. -/
def ingressesFor (store : Store) (service : Object) : Except VisitError (List Object) := do
  let kind := ResourceKind.ingress
  let ingresses ← store.fetchAll service (.every service.namespaceName kind.apiVersion kind.name)
  keepViewed ingresses Object.asIngress fun view => (backendNames view).contains service.nameAny

/-- What a pod mentions: config maps, then secrets, then its account, the names ascending. -/
def sortedReferences (references : List ObjectReference) : List ObjectReference :=
  [ResourceKind.configMap, .secret, .serviceAccount].flatMap fun kind =>
    (ascending ((references.filter (·.kind == kind)).map (·.name))).map (⟨kind, ·⟩)

/-- The objects that a pod mentions by name. -/
def dependenciesOf (store : Store) (pod : Object) : Except VisitError (List Object) := do
  let view ← read pod Object.asPod
  store.fetchNamed pod <| (sortedReferences view.references).map fun reference =>
    .one pod.namespaceName "v1" reference.kind.name reference.name

/-- The relations that come with the use of an object, by its kind. -/
def usageRelations (store : Store) (object : Object) : Except VisitError (List Relation) :=
  if object.isKind .service then do
    let pods ← store.selectedPods object
    let ingresses ← store.ingressesFor object
    pure (pods.map .outgoing ++ ingresses.map .incoming)
  else if object.isKind .ingress then do
    let services ← store.backendServices object
    pure (services.map .outgoing)
  else if object.isKind .pod then do
    let services ← store.selectingServices object
    let used ← store.dependenciesOf object
    pure (services.map .incoming ++ used.map .outgoing)
  else .ok []

/-- All relations of an object: owners, children, and then those of use. -/
def relations (store : Store) (object : Object) : Except VisitError (List Relation) := do
  let owners ← store.ownersOf object
  let children ← store.childrenOf object
  let usage ← store.usageRelations object
  pure (owners.map .incoming ++ children.map .outgoing ++ usage)

end Store

end ClusterGraph
