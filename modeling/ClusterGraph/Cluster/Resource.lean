import ClusterGraph.Store.Basic

/-!
Connections to servers.

A server lists its resources under API versions: the kind of their objects, the name under which they are
found, and whether they live in namespaces. A connection searches a server for resources and asks it for their
objects. What the requests look like and how their answers are read is up to the connection; it says what
comes of each question, and which requests it took.
-/

namespace ClusterGraph

/-- How the objects of a kind are found on a server. -/
structure ServedResource where
  apiVersion : String
  kind : String
  name : String
  isCore : Bool
  isNamespaced : Bool
  deriving DecidableEq, Repr, Inhabited

namespace ServedResource

/-- The namespace to look in; a resource that lives in none is looked for in the whole server. -/
def space? (resource : ServedResource) (key : ObjectKey) : Option String :=
  if resource.isNamespaced then key.namespaceName else none

/-- An object with the type of its resource, unless it has one. -/
def withType (resource : ServedResource) (object : Object) : Object :=
  if object.type.isNone then object.withType ⟨resource.apiVersion, resource.kind⟩ else object

end ServedResource

/-- What comes of a question to a server, and the requests that it took. -/
structure Reply (α : Type) where
  answer : Except ApiError α
  requests : List String

/-- A connection to a server, which answers each question in the same way every time. -/
structure Connection where
  /-- The resource of a kind under an API version. -/
  resource : (apiVersion kind : String) → Reply ServedResource
  /-- The object of a name in a namespace, or in the whole server, if there is one. -/
  object : (resource : ServedResource) → (space : Option String) → (name : String) → Reply (Option Object)
  /-- The objects in a namespace, or in the whole server, that carry what a selector asks for. -/
  objects : (resource : ServedResource) → (space selector : Option String) → Reply (List Object)

end ClusterGraph
