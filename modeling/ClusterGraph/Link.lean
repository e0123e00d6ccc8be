import ClusterGraph.Graph.Component
import ClusterGraph.Object.Basic
import ClusterGraph.Text.Escaped
import ClusterGraph.Text.Pieces

/-!
Paths of objects in the dashboard.

A namespaced object lives under the prefix, its namespace, its section and its name; any other one
under the prefix for the whole cluster. The well-known kinds have sections of their own; every other
kind is addressed by its group, kind and version.
-/

namespace ClusterGraph

/-- Why an object has no path. -/
inductive LinkError where
  | missingKind
  | missingName (kind : String)
  deriving DecidableEq, Repr, Inhabited

namespace LinkError

/-- The wording of an error. -/
def message : LinkError → String
  | missingKind => "unable to build a path for an object without a kind"
  | missingName kind => "unable to build a path for " ++ kind ++ " without a name"

end LinkError

/-- The prefixes under which objects of a namespace and of the cluster live. -/
structure PathLayout where
  prefixPath : String
  clusterPrefix : String
  deriving DecidableEq, Repr, Inhabited

namespace PathLayout

/-- The layout with the given prefixes; slashes at their ends do not count. -/
def make (prefixPath clusterPrefix : String) : PathLayout :=
  ⟨Text.trimEndChar '/' prefixPath, Text.trimEndChar '/' clusterPrefix⟩

/-- The layout that is used unless another one is asked for. -/
def standard : PathLayout :=
  ⟨"/overview", "/cluster-overview"⟩

/-- The section of objects of a given type. -/
def sectionOf (object : Object) : String :=
  match ResourceKind.ofGroupKind? object.groupKind with
  | some kind => kind.sectionPath
  | none =>
    "custom-resources/" ++ object.groupKind.text ++ "/" ++ apiVersionNumber object.apiVersion

/-- The path of an object, without query. -/
def path (layout : PathLayout) (object : Object) : Except LinkError String :=
  if object.kind.isEmpty then .error .missingKind
  else
    match object.metadata.name.filter (!·.isEmpty) with
    | none => .error (.missingName object.kind)
    | some name =>
      match object.namespaceName.filter (!·.isEmpty) with
      | some space =>
        .ok (layout.prefixPath ++ "/namespace/" ++ space ++ "/" ++ sectionOf object ++ "/" ++ name)
      | none => .ok (layout.clusterPrefix ++ "/" ++ sectionOf object ++ "/" ++ name)

/-- The link to an object under a display text; a query that is not empty is form-encoded. -/
def link (layout : PathLayout) (object : Object) (display : String)
    (query : List (String × String)) : Except LinkError Component := do
  let path ← layout.path object
  let query := if query.isEmpty then "" else "?" ++ Text.formPairs query
  pure (.link ⟨display, path ++ query⟩)

end PathLayout

/-- A way to find what is shown as the place of any object, under a display text and with a query. -/
abbrev LinkResolver := Object → String → List (String × String) → Except LinkError Component

/-- A layout says where each object is linked to. -/
instance : Coe PathLayout LinkResolver := ⟨PathLayout.link⟩

/-- The links of the layout that is used unless another one is asked for. -/
def LinkResolver.standard : LinkResolver := PathLayout.standard

end ClusterGraph
