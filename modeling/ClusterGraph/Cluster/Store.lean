import ClusterGraph.Cluster.Resource
import ClusterGraph.Dict

/-!
Objects of a server.

A server is asked for objects by their resources, and for the resources before that. A resource that
was found once is remembered; a failed search is not. The requests that were made are kept in their
order, so that it can be said how often the server was asked for what.
-/

namespace ClusterGraph

/-- The terms of a selector in one text. -/
def ObjectKey.labelSelector? (key : ObjectKey) : Option String :=
  key.selector.map fun labels =>
    ",".intercalate (labels.map fun (label, value) => label ++ "=" ++ value)

/-- What is known about a server, and what it was asked. -/
structure ClusterStore where
  known : Dict ServedResource := ∅
  requests : List String := []

namespace ClusterStore

/-- The name under which a resource is remembered. -/
def resourceKey (apiVersion kind : String) : String :=
  apiVersion ++ "/" ++ kind

/-- The store after further requests. -/
def asked (store : ClusterStore) (requests : List String) : ClusterStore :=
  { store with requests := store.requests ++ requests }

/-- The resource of a kind, from memory or from the server. -/
def resource (connection : Connection) (store : ClusterStore) (apiVersion kind : String) :
    Except StoreError ServedResource × ClusterStore :=
  match store.known.get? (resourceKey apiVersion kind) with
  | some resource => (.ok resource, store)
  | none =>
    let reply := connection.resource apiVersion kind
    let store := store.asked reply.requests
    match reply.answer with
    | .ok resource =>
      (.ok resource,
        { store with known := store.known.insert (resourceKey apiVersion kind) resource })
    | .error error => (.error (.discovery apiVersion kind error), store)

/-- Looks for one object; the key has to name it. -/
def get (connection : Connection) (store : ClusterStore) (key : ObjectKey) :
    Except StoreError (Option Object) × ClusterStore :=
  match key.name with
  | none => (.error (.missingName key.kind), store)
  | some name =>
    match store.resource connection key.apiVersion key.kind with
    | (.error error, store) => (.error error, store)
    | (.ok resource, store) =>
      let reply := connection.object resource (resource.space? key) name
      ((reply.answer.mapError .request).map (·.map resource.withType), store.asked reply.requests)

/-- All objects that a key describes. -/
def list (connection : Connection) (store : ClusterStore) (key : ObjectKey) :
    Except StoreError (List Object) × ClusterStore :=
  match store.resource connection key.apiVersion key.kind with
  | (.error error, store) => (.error error, store)
  | (.ok resource, store) =>
    let reply := connection.objects resource (resource.space? key) key.labelSelector?
    ((reply.answer.mapError .request).map (·.map resource.withType), store.asked reply.requests)

end ClusterStore

end ClusterGraph
