import ClusterGraph.Json.Shape
import ClusterGraph.Object.Basic

/-!
Objects from documents.

The metadata must have its standard form. An object has a type only when both its API version and its
kind are texts; neither of them remains among the further fields, except that a kind beside an API
version that is no text does.
-/

namespace ClusterGraph.Object

open Json (Shape Mismatch)

/-- The form of an owner reference. -/
def ownerReferenceShape : Shape :=
  .record "OwnerReference"
    [("apiVersion", .text), ("blockOwnerDeletion", .flag), ("controller", .flag), ("kind", .text),
      ("name", .text), ("uid", .text)]

/-- The form of an entry about the manager of some fields. -/
def managedFieldsShape : Shape :=
  .record "ManagedFieldsEntry"
    [("apiVersion", .text), ("fieldsType", .text), ("fieldsV1", .anything), ("manager", .text),
      ("operation", .text), ("subresource", .text), ("time", .timestamp)]

/-- The form of the metadata. -/
def metadataShape : Shape :=
  .record "ObjectMeta"
    [("annotations", .dict .text), ("creationTimestamp", .timestamp),
      ("deletionGracePeriodSeconds", .int64), ("deletionTimestamp", .timestamp),
      ("finalizers", .list .text), ("generateName", .text), ("generation", .int64),
      ("labels", .dict .text), ("managedFields", .list managedFieldsShape), ("name", .text),
      ("namespace", .text), ("ownerReferences", .list ownerReferenceShape),
      ("resourceVersion", .text), ("selfLink", .text), ("uid", .text)]

/-- A text field that is present. -/
def textField? (json : Json) (key : String) : Option String :=
  (json.get? key).bind Json.text?

/-- An owner reference of the standard form; missing texts are empty. -/
def ownerReference (json : Json) : OwnerReference where
  apiVersion := json.textAt "apiVersion"
  kind := json.textAt "kind"
  name := json.textAt "name"
  uid := json.textAt "uid"
  controller := (json.get? "controller").bind Json.bool?

/-- The entries of a dictionary of texts. -/
def textEntries (json : Json) : List (String × String) :=
  json.fields.filterMap fun (key, value) => value.text?.map (key, ·)

/-- Metadata of the standard form. -/
def metadataOf (json : Json) : Metadata where
  name := textField? json "name"
  generateName := textField? json "generateName"
  namespaceName := textField? json "namespace"
  uid := textField? json "uid"
  labels := ((json.get? "labels").map textEntries).getD []
  owners := (json.itemsAt "ownerReferences").map ownerReference

/-- The type, where both of its parts are texts. -/
def typeOf? (json : Json) : Option ObjectType := do
  some ⟨← textField? json "apiVersion", ← textField? json "kind"⟩

/-- The fields that are neither type nor metadata. -/
def dataOf (json : Json) : List (String × Json) :=
  let kindStays := match json.get? "apiVersion" with
    | none | some (.str _) => false
    | some _ => true
  json.fields.filter fun (key, _) =>
    key != "metadata" && key != "apiVersion" && (key != "kind" || kindStays)

/-- The object that a document describes. -/
def ofJson (json : Json) : Except Mismatch Object :=
  match json with
  | .obj fields => do
    let metadata := (Json.lookupField fields "metadata").getD (.obj [])
    metadataShape.check metadata
    pure ⟨typeOf? json, metadataOf metadata, dataOf json⟩
  | found => .error (.invalidType found "struct DynamicObject")

end ClusterGraph.Object
