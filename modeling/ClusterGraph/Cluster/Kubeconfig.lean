import ClusterGraph.Cluster.Address
import ClusterGraph.Json.Shape
import ClusterGraph.Object.Decode
import ClusterGraph.Text.Escaped
import ClusterGraph.Workspace
import ClusterGraph.Yaml.Value

/-!
Which server to ask.

A kubeconfig names clusters, users and contexts; a context joins a cluster and a user. It is read from
one or several files, whose documents are laid under each other: what came first counts. A context is
chosen by its name, or else the kubeconfig says which one is current.
-/

namespace ClusterGraph

/-- The cluster and the user of a context. -/
structure Context where
  cluster : String
  user : Option String
  deriving DecidableEq, Repr, Inhabited

/-- A server and the proxy through which it is reached. -/
structure ClusterEntry where
  server : Option String
  proxy : Option String
  deriving DecidableEq, Repr, Inhabited

/-- The parts of a kubeconfig under their names. A name may have nothing behind it. -/
structure Kubeconfig where
  kind : Option String := none
  apiVersion : Option String := none
  currentContext : Option String := none
  contexts : List (String × Option Context) := []
  clusters : List (String × Option ClusterEntry) := []
  users : List (String × Bool) := []
  deriving Repr, Inhabited

/-- Why a kubeconfig does not lead to a server. -/
inductive KubeconfigFault where
  | unreadable (path : String) (error : FileError)
  | malformed
  | wrongForm
  | otherKind
  | otherVersion
  | noContext
  | unknownContext (name : String)
  | unknownCluster (name : String)
  | unknownUser (name : String)
  | noServer
  | badServer (fault : AddressFault)
  | badProxy (fault : AddressFault)
  deriving DecidableEq, Repr, Inhabited

namespace KubeconfigFault

/-- The wording of a fault. -/
def message : KubeconfigFault → String
  | unreadable path error =>
    "failed to read kubeconfig from '" ++ Text.quotedPath path ++ "': " ++ error.message
  | malformed => "failed to parse kubeconfig YAML: " ++ yamlFault
  | wrongForm => "the structure of the parsed kubeconfig is invalid: " ++ yamlFault
  | otherKind => "kubeconfigs with mismatching kind cannot be merged"
  | otherVersion => "kubeconfigs with mismatching api version cannot be merged"
  | noContext => "failed to determine current context"
  | unknownContext name => "failed to load current context: " ++ name
  | unknownCluster name => "failed to load the cluster of context: " ++ name
  | unknownUser name => "failed to find named user: " ++ name
  | noServer => "cluster url is missing on selected cluster"
  | badServer fault => "failed to parse cluster url: " ++ fault.message
  | badProxy fault => "failed to parse proxy url: " ++ fault.message

/-- The wordings of the causes of a fault. -/
def causes : KubeconfigFault → List String
  | unreadable _ error => [error.message]
  | malformed => [yamlFault]
  | wrongForm => [yamlFault]
  | badServer fault => [fault.message]
  | badProxy fault => [fault.message]
  | _ => []

end KubeconfigFault

namespace Kubeconfig

/-! ## Documents -/

/-- The form of a part under its name. -/
def namedShape (key : String) (part : Json.Shape) : Json.Shape :=
  .record "named part" [("name", .text), (key, part)]

/-- The form of a kubeconfig. -/
def shape : Json.Shape :=
  let texts := fun (keys : List String) => keys.map fun key => (key, Json.Shape.text)
  .record "kubeconfig"
    (texts ["kind", "apiVersion", "current-context"] ++
      [("preferences", .record "preferences" [("colors", .flag)]),
        ("clusters", .list (namedShape "cluster" (.record "cluster"
          (texts ["server", "certificate-authority", "certificate-authority-data", "proxy-url",
              "tls-server-name"] ++
            [("insecure-skip-tls-verify", .flag), ("disable-compression", .flag)])))),
        ("users", .list (namedShape "user" (.record "user"
          (texts ["username", "password", "token", "tokenFile", "client-certificate",
              "client-certificate-data", "client-key", "client-key-data", "as"] ++
            [("as-groups", .list .text)])))),
        ("contexts", .list (namedShape "context" (.record "context"
          (texts ["cluster", "user", "namespace"]))))])

/-- The context of a document; it must name a cluster. -/
def context? (json : Json) : Option Context := do
  some ⟨← Object.textField? json "cluster", Object.textField? json "user"⟩

/-- The cluster of a document. -/
def cluster (json : Json) : ClusterEntry :=
  ⟨Object.textField? json "server", Object.textField? json "proxy-url"⟩

/-- The parts of a document under their names, which must be given. -/
def named? {α : Type} (json : Json) (listKey key : String) (read? : Json → Option α) :
    Option (List (String × Option α)) :=
  (json.itemsAt listKey).mapM fun item => do
    let name ← Object.textField? item "name"
    match item.present? key with
    | none => some (name, none)
    | some part => some (name, some (← read? part))

/-- The kubeconfig of a document. -/
def ofJson? (json : Json) : Option Kubeconfig :=
  if (shape.check json).isOk then do
    some
      { kind := Object.textField? json "kind"
        apiVersion := Object.textField? json "apiVersion"
        currentContext := Object.textField? json "current-context"
        contexts := ← named? json "contexts" "context" context?
        clusters := ← named? json "clusters" "cluster" (some ∘ cluster)
        users := (← named? json "users" "user" fun _ => some ()).map fun (name, user) =>
          (name, user.isSome) }
  else none

/-- Whether two optional texts are both given and differ. -/
def conflict (a b : Option String) : Bool :=
  a.isSome && b.isSome && a != b

/-- The parts of two lists under different names; what came first counts. -/
def mergeNamed {α : Type} (first second : List (String × α)) : List (String × α) :=
  first ++ second.filter fun (name, _) => !first.any (·.1 == name)

/-- Lays a second kubeconfig under a first one. -/
def merge (first second : Kubeconfig) : Except KubeconfigFault Kubeconfig :=
  if conflict first.kind second.kind then .error .otherKind
  else if conflict first.apiVersion second.apiVersion then .error .otherVersion
  else
    .ok
      { kind := first.kind.or second.kind
        apiVersion := first.apiVersion.or second.apiVersion
        currentContext := first.currentContext.or second.currentContext
        contexts := mergeNamed first.contexts second.contexts
        clusters := mergeNamed first.clusters second.clusters
        users := mergeNamed first.users second.users }

/-- The kubeconfigs of the documents of a text. -/
def documents (text : String) : Except KubeconfigFault (List Kubeconfig) :=
  (Yaml.stream text).mapM fun
    | .unreadable => .error .malformed
    | .empty => .ok {}
    | .value json =>
      match ofJson? json with
      | none => .error .wrongForm
      | some config => .ok config

/-- The kubeconfig of a file. -/
def ofFile (files : FileTree) (path : String) : Except KubeconfigFault Kubeconfig := do
  let text ← (files.read path).mapError (.unreadable path)
  match ← documents text with
  | [] => .ok {}
  | first :: rest => rest.foldlM merge first

/-! ## Finding and using it -/

/-- The files of the kubeconfig: those that a variable lists, or else one in the home directory. -/
def paths (environment : Environment) : List String :=
  let listed := (Text.piecesAt ':' ((environment.get? "KUBECONFIG").getD "")).filter (!·.isEmpty)
  if listed.isEmpty then [FilePath.join environment.home ".kube/config"] else listed

/-- The kubeconfig that a run finds. -/
def find (workspace : Workspace) : Except KubeconfigFault Kubeconfig := do
  let configs ← (paths workspace.environment).mapM (ofFile workspace.files)
  configs.foldlM merge {}

/-- The cluster of the context with a given name, or of the current one. Its user must exist. -/
def select (config : Kubeconfig) (name : Option String) : Except KubeconfigFault ClusterEntry := do
  let some name := name.or config.currentContext | throw .noContext
  let some context := (config.contexts.lookup name).join | throw (.unknownContext name)
  let some entry := (config.clusters.lookup context.cluster).join
    | throw (.unknownCluster context.cluster)
  match context.user with
  | none => pure entry
  | some user =>
    if (config.users.lookup user).getD false then pure entry else throw (.unknownUser user)

end Kubeconfig

end ClusterGraph
