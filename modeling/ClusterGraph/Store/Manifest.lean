import ClusterGraph.File.Tree
import ClusterGraph.Object.Decode
import ClusterGraph.Store.Basic
import ClusterGraph.Yaml.Value

/-!
Stores from manifests.

A manifest is a stream of documents. Each one describes an object or is a list of objects; empty
documents describe nothing, but count when an error names a document by its number. Objects without a
namespace may get a default one. Documents are used one after another, so that the first fault, be it
of a document or of an object, is the one that is reported.
-/

namespace ClusterGraph

/-- The object in its own namespace, or else in the default one, where there is one. -/
def Object.withDefaultNamespace (defaultName : Option String) (object : Object) : Object :=
  if object.namespaceName.isNone then
    { object with metadata := { object.metadata with namespaceName := defaultName } }
  else object

namespace Store

/-- The items of a list document. -/
def listItems? (document : Json) : Option (List Json) :=
  match document.get? "items", document.get? "kind" with
  | some (.arr items), some (.str "List") => some items
  | _, _ => none

/-- The descriptions of objects in a document. -/
def descriptions (document : Json) : List Json :=
  (listItems? document).getD [document]

/-- The objects of the document with the given number. -/
def objectsOf (defaultName : Option String) (index : Nat) (document : Json) :
    Except StoreError (List Object) :=
  (descriptions document).mapM fun description =>
    (Object.ofJson description).mapError (.invalidObject index)
      |>.map (·.withDefaultNamespace defaultName)

/-- The objects of a stream of documents, the first of which has the given number. A document that
could not be read ends the stream with an error. -/
def objectsFrom (defaultName : Option String) (index : Nat) :
    List Yaml.Document → Except StoreError (List Object)
  | [] => .ok []
  | .unreadable :: _ => .error .manifest
  | .empty :: rest => objectsFrom defaultName (index + 1) rest
  | .value document :: rest => do
    let objects ← objectsOf defaultName index document
    return objects ++ (← objectsFrom defaultName (index + 1) rest)

/-- The store of the objects of a stream of documents. -/
def ofDocuments (defaultName : Option String) (documents : List Yaml.Document) :
    Except StoreError Store :=
  (objectsFrom defaultName 0 documents).map fun objects => { objects }

/-- The store that a manifest describes. -/
def ofManifest (defaultName : Option String) (text : String) : Except StoreError Store :=
  ofDocuments defaultName (Yaml.stream text)

/-- The store that the manifest in a file describes. -/
def ofFile (files : FileTree) (defaultName : Option String) (path : String) :
    Except StoreError Store :=
  match files.read path with
  | .error error => .error (.file path error)
  | .ok text => ofManifest defaultName text

end Store

end ClusterGraph
