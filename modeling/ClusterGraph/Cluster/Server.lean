import ClusterGraph.Cluster.Address
import ClusterGraph.Cluster.Answer
import ClusterGraph.Cluster.Resource
import ClusterGraph.Object.Decode
import ClusterGraph.Text.Escaped

/-!
Servers, and the connection to them by requests for targets.

The list of the resources of an API version names the API version that their objects carry. Parts of a
resource are listed beside it, with a slash in their names; they are no resources of their own. Objects are
found below the target of their resource.
-/

namespace ClusterGraph

namespace ServedResource

/-- The form of an entry of a list of resources. -/
def entryShape : Json.Shape :=
  .record "APIResource"
    [("categories", .list .text), ("group", .text), ("kind", .text), ("name", .text),
      ("namespaced", .flag), ("shortNames", .list .text), ("singularName", .text),
      ("storageVersionHash", .text), ("verbs", .list .text), ("version", .text)]

/-- The form of a list of resources. -/
def listShape : Json.Shape :=
  .record "APIResourceList"
    [("apiVersion", .exactly "v1"), ("groupVersion", .text), ("kind", .exactly "APIResourceList"),
      ("resources", .list entryShape)]

/-- The API version that objects carry, by the one of their list. A slash at its start does not
count. -/
def carriedVersion (groupVersion : String) : String :=
  if (apiGroup groupVersion).isEmpty then apiVersionNumber groupVersion else groupVersion

/-- Whether an entry describes a kind itself and not a part of it. -/
def describes (kind : String) (entry : Json) : Bool :=
  entry.textAt "kind" == kind && !(entry.textAt "name").toList.contains '/'

/-- Whether the resource of a name lives in namespaces: the first entry of that name says so. -/
def isNamespacedIn (entries : List Json) (name : String) : Bool :=
  match entries.find? (·.textAt "name" == name) with
  | some entry => ((entry.get? "namespaced").bind Json.bool?).getD false
  | none => false

/-- The resource of a kind in a list of resources. -/
def find (kind : String) (list : Json) : Except ApiError ServedResource :=
  if !(listShape.check list).isOk then .error .unreadable
  else
    let entries := list.itemsAt "resources"
    let groupVersion := list.textAt "groupVersion"
    match entries.find? (describes kind) with
    | none => .error .unlisted
    | some entry =>
      let name := entry.textAt "name"
      let group := (Object.textField? entry "group").getD (apiGroup groupVersion)
      .ok
        { apiVersion := carriedVersion groupVersion
          kind := kind
          name := name
          isCore := group.isEmpty
          isNamespaced := isNamespacedIn entries name }

/-- The target of all objects of a resource in a namespace, or in all of them. -/
def target (resource : ServedResource) (space : Option String) : String :=
  let space := match space with
    | some name => "namespaces/" ++ name ++ "/"
    | none => ""
  (if resource.isCore then "/api/" else "/apis/") ++ resource.apiVersion ++ "/" ++ space ++
    resource.name

/-- The target of one object. -/
def objectTarget (resource : ServedResource) (space : Option String) (name : String) : String :=
  resource.target space ++ "/" ++ name

/-- The target of a list of objects. -/
def listTarget (resource : ServedResource) (space selector : Option String) : String :=
  resource.target space ++ "?" ++
    match selector with
    | none => ""
    | some terms => "&" ++ Text.formPairs [("labelSelector", terms)]

end ServedResource

/-- A server answers each target in the same way every time. -/
abbrev Server := String → Answer

namespace Server

/-- The document under a target. -/
def document (server : Server) (target : String) : Except ApiError Json :=
  match Target.sent? target with
  | some target => (server target).document
  | none => .error .badRequest

/-- What comes of a request for a target whose document is to be read; a target that is not allowed takes no
request. -/
def ask {α : Type} (server : Server) (target : String)
    (read : Except ApiError Json → Except ApiError α) : Reply α :=
  ⟨read (server.document target), (Target.sent? target).toList⟩

/-- An object in an answer; there is none where the server says that it is not found. -/
def objectIn : Except ApiError Json → Except ApiError (Option Object)
  | .error error => if error.isNotFound then .ok none else .error error
  | .ok json =>
    match Object.ofJson json with
    | .ok object => .ok (some object)
    | .error _ => .error .unreadable

/-- The form of what a list says about itself. -/
def listMetadataShape : Json.Shape :=
  .record "ListMeta"
    [("continue", .text), ("remainingItemCount", .int64), ("resourceVersion", .text),
      ("selfLink", .text)]

/-- The objects of a list document. -/
def objectsOf? (json : Json) : Option (List Object) :=
  if (json.get? "metadata").all fun metadata => (listMetadataShape.check metadata).isOk then
    match json.get? "items" with
    | some (.arr items) => items.mapM fun item => (Object.ofJson item).toOption
    | some .null => some []
    | _ => none
  else none

/-- The objects in an answer. -/
def objectsIn (answer : Except ApiError Json) : Except ApiError (List Object) := do
  match objectsOf? (← answer) with
  | some objects => .ok objects
  | none => .error .unreadable

/-- The connection to a server. For an object without a name no request is made. -/
def connection (server : Server) : Connection where
  resource apiVersion kind :=
    server.ask (Target.discovery apiVersion) (· >>= ServedResource.find kind)
  object resource space name :=
    if name.isEmpty then ⟨.error .badRequest, []⟩
    else server.ask (resource.objectTarget space name) objectIn
  objects resource space selector := server.ask (resource.listTarget space selector) objectsIn

end Server

end ClusterGraph
