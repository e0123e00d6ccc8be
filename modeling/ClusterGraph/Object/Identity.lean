import ClusterGraph.Object.Basic

/-!
Identifiers of objects and of pod groups.

An object is identified by its unique identifier, or else by API version, kind and name. All pods of
one controller form a group; the key of a group is encoded with the length of each of its parts, so
that different keys have different encodings.
-/

namespace ClusterGraph

/-- The identifier made of API version, kind and name. -/
def compositeId (apiVersion kind name : String) : String :=
  apiVersion ++ "-" ++ kind ++ "-" ++ name

/-- The identifier of an object within one graph. -/
def Object.id (object : Object) : String :=
  object.uid?.getD (compositeId object.apiVersion object.kind object.nameAny)

/-- What the pods of one group have in common: their namespace and their controller. -/
structure PodGroupKey where
  namespaceName : String
  ownerApiVersion : String
  ownerKind : String
  ownerName : String
  deriving DecidableEq, Repr, Inhabited

namespace PodGroupKey

/-- The reference to the controller: the first one marked as such, or else the first one. -/
def controllerOf? (owners : List OwnerReference) : Option OwnerReference :=
  (owners.find? (·.isController)).or owners.head?

/-- The group of a pod; a pod without owners has none. -/
def ofPod? (pod : Object) : Option PodGroupKey :=
  (controllerOf? pod.owners).map fun owner =>
    ⟨pod.namespaceName.getD "", owner.apiVersion, owner.kind, owner.name⟩

/-- The parts of a key. -/
def parts (key : PodGroupKey) : List String :=
  [key.namespaceName, key.ownerApiVersion, key.ownerKind, key.ownerName]

/-- A part with its length in bytes before it. -/
def sizedPart (part : String) : String :=
  ":" ++ toString part.utf8ByteSize ++ ":" ++ part

/-- The identifier of the group: `pods` and its parts, each with its length. -/
def nodeId (key : PodGroupKey) : String :=
  "pods" ++ String.join (key.parts.map sizedPart)

/-- The name under which the group is shown. -/
def displayName (key : PodGroupKey) : String :=
  key.ownerName ++ " pods"

/-- Ascending order by namespace, API version, kind and name of the controller. -/
def compare (a b : PodGroupKey) : Ordering :=
  (Ord.compare a.namespaceName b.namespaceName).then <|
    (Ord.compare a.ownerApiVersion b.ownerApiVersion).then <|
      (Ord.compare a.ownerKind b.ownerKind).then (Ord.compare a.ownerName b.ownerName)

end PodGroupKey

end ClusterGraph
