import ClusterGraph.Config.Basic
import ClusterGraph.Status.Resolver
import ClusterGraph.Traversal

/-!
The graph around an object.

A viewer walks from an object through its store, records what it meets, and shows the recording.
-/

namespace ClusterGraph

/-- A store and the way in which its objects are shown. -/
structure Viewer where
  store : Store
  view : View

/-- Why there is no graph, and around which object. -/
inductive ViewError where
  | visit (kind name : String) (error : VisitError)
  | build (kind name : String) (error : GraphError)
  deriving Repr, Inhabited

namespace ViewError

/-- The report of an error. -/
def report : ViewError → Report
  | visit kind name error =>
    ⟨"Failed to visit " ++ kind ++ " " ++ name, error.message :: error.causes⟩
  | build kind name error =>
    ⟨"Failed to build resource viewer for " ++ kind ++ " " ++ name, error.message :: error.causes⟩

/-- The graph error in which a report ends, unless it came out of the walk. -/
def graphError? : ViewError → Option GraphError
  | visit _ _ _ => none
  | build _ _ error => some error

end ViewError

namespace Viewer

/-- The viewer with the rules for the well-known kinds, the given plugins, and the settings. -/
def make (store : Store) (config : Config) (plugins : List Plugin) : Viewer where
  store := store
  view :=
    { grouping := config.groupPods
      resolver :=
        let resolver := Resolver.standard store
        (if plugins.isEmpty then resolver else resolver.withPlugins plugins).status
      layout := PathLayout.make config.linkPrefix config.clusterLinkPrefix }

/-- The viewer with groups of pods switched on or off. -/
def withGrouping (viewer : Viewer) (grouping : Bool) : Viewer :=
  { viewer with view := { viewer.view with grouping } }

/-- The graph around an object, with a given node highlighted. -/
def visitSelecting (viewer : Viewer) (object : Object) (selected : String) (cancelled : Bool) :
    Except ViewError Graph :=
  match Recording.ofTrace viewer.view.grouping (viewer.store.walk object cancelled) with
  | .error error => .error (.visit object.kind object.nameAny error)
  | .ok recording =>
    (recording.requestGraph viewer.view selected cancelled).mapError
      (.build object.kind object.nameAny)

/-- The graph around an object, with the object itself highlighted. -/
def visit (viewer : Viewer) (object : Object) (cancelled : Bool) : Except ViewError Graph :=
  viewer.visitSelecting object object.id cancelled

end Viewer

end ClusterGraph
