import ClusterGraph.Json.Basic
import ClusterGraph.ResourceKind

/-!
Objects of a cluster.

An object carries its type, unless it has none, its metadata, and further fields as a document. Of the
metadata those parts are kept that naming, ownership and selection need. `IsOwnedBy` is the ownership
test: an owner reference counts by unique identifier where both sides have one, and else by API
version, kind and name.
-/

namespace ClusterGraph

/-- API version and kind as an object carries them. -/
structure ObjectType where
  apiVersion : String
  kind : String
  deriving DecidableEq, Repr, Inhabited

/-- A reference from an object to one of its owners. -/
structure OwnerReference where
  apiVersion : String
  kind : String
  name : String
  uid : String
  controller : Option Bool
  deriving DecidableEq, Repr, Inhabited

namespace OwnerReference

/-- Whether the reference is marked as the one controller. -/
def isController (reference : OwnerReference) : Bool :=
  reference.controller.getD false

end OwnerReference

/-- Names, labels and owners of an object. Labels are in ascending order of their keys. -/
structure Metadata where
  name : Option String := none
  generateName : Option String := none
  namespaceName : Option String := none
  uid : Option String := none
  labels : List (String × String) := []
  owners : List OwnerReference := []
  deriving DecidableEq, Repr, Inhabited

/-- An object of a cluster, of any kind. -/
structure Object where
  type : Option ObjectType
  metadata : Metadata
  data : List (String × Json)
  deriving Repr, Inhabited

namespace Object

/-- The API version; empty for an object without type. -/
def apiVersion (object : Object) : String :=
  (object.type.map (·.apiVersion)).getD ""

/-- The kind; empty for an object without type. -/
def kind (object : Object) : String :=
  (object.type.map (·.kind)).getD ""

/-- The API group; empty for the core group. -/
def group (object : Object) : String :=
  apiGroup object.apiVersion

/-- The group and kind. -/
def groupKind (object : Object) : GroupKind :=
  ⟨object.group, object.kind⟩

/-- The name, or else the prefix from which a name is to be made, or else nothing. -/
def nameAny (object : Object) : String :=
  (object.metadata.name.or object.metadata.generateName).getD ""

/-- The namespace. -/
def namespaceName (object : Object) : Option String :=
  object.metadata.namespaceName

/-- The unique identifier, where there is one and it is not empty. -/
def uid? (object : Object) : Option String :=
  object.metadata.uid.filter (!·.isEmpty)

/-- The labels. -/
def labels (object : Object) : List (String × String) :=
  object.metadata.labels

/-- The owner references. -/
def owners (object : Object) : List OwnerReference :=
  object.metadata.owners

/-- Whether the object is of a well-known kind, in one of the groups that serve it. -/
def isKind (object : Object) (kind : ResourceKind) : Bool :=
  object.kind == kind.name && kind.groups.contains object.group

/-- Whether the object has neither a type nor a name nor a unique identifier. -/
def isEmpty (object : Object) : Bool :=
  object.type.isNone && object.metadata.name.isNone && object.metadata.uid.isNone

/-- The fields other than type and metadata as one document. -/
def document (object : Object) : Json :=
  .obj object.data

/-- The object with another type. -/
def withType (object : Object) (type : ObjectType) : Object :=
  { object with type := some type }

end Object

namespace OwnerReference

/-- Whether the reference names the object: by unique identifier where both have one, else by API
version, kind and name. -/
def names (reference : OwnerReference) (owner : Object) : Bool :=
  match owner.uid? with
  | some uid =>
    if reference.uid.isEmpty then
      reference.kind == owner.kind && reference.name == owner.nameAny &&
        reference.apiVersion == owner.apiVersion
    else reference.uid == uid
  | none =>
    reference.kind == owner.kind && reference.name == owner.nameAny &&
      reference.apiVersion == owner.apiVersion

end OwnerReference

/-- Whether an owner reference of the object names the given owner. -/
def Object.isOwnedBy (object owner : Object) : Bool :=
  object.owners.any (·.names owner)

end ClusterGraph
