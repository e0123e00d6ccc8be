import ClusterGraph.Cache
import ClusterGraph.Viewer

/-!
A viewer that answers at once.

Graphs are built in the background and kept in a cache. Until one is there a placeholder is shown. For
each key at most one build is under way; a build that fails leaves nothing behind.
-/

namespace ClusterGraph

/-- The key under which the graph around an object is kept. -/
def Object.cacheKey (object : Object) : String :=
  "resourceviewer/" ++ object.id

/-- The graph that is shown while the real one is built: the object alone, in an unknown state. -/
def Graph.placeholder (object : Object) : Graph where
  nodes := (∅ : Dict Node).insert object.id
    { name := object.nameAny
      apiVersion := object.apiVersion
      kind := object.kind
      status := .unknown
      details := [.text "Loading"]
      path := none }
  edges := ∅
  selected := object.id

/-- A viewer with its cache and the builds that are under way, in the order in which they began. After
a shutdown every build fails. -/
structure CachedViewer where
  viewer : Viewer
  cache : Cache Graph
  pending : List Object := []
  shutDown : Bool := false

namespace CachedViewer

/-- The keys of the builds under way. -/
def pendingKeys (viewer : CachedViewer) : List String :=
  viewer.pending.map Object.cacheKey

/-- Starts a build, unless one with the same key is under way. Says whether it did. -/
def refresh (viewer : CachedViewer) (object : Object) : Bool × CachedViewer :=
  if viewer.pendingKeys.contains object.cacheKey then (false, viewer)
  else (true, { viewer with pending := viewer.pending ++ [object] })

/-- The graph around an object from the cache, or else a placeholder, and then a build is started. -/
def component (viewer : CachedViewer) (object : Object) : Graph × CachedViewer :=
  match viewer.cache.get object.cacheKey with
  | (some graph, cache) => (graph, { viewer with cache })
  | (none, cache) => (.placeholder object, ({ viewer with cache }.refresh object).2)

/-- The result of a build: the graph, unless the visit fails or the viewer was shut down. -/
def build (viewer : CachedViewer) (object : Object) : Except ViewError Graph :=
  viewer.viewer.visit object viewer.shutDown

/-- Ends the build of an object: a graph goes into the cache, a failure nowhere. -/
def finish (viewer : CachedViewer) (object : Object) : CachedViewer :=
  let pending := viewer.pending.filter (·.cacheKey != object.cacheKey)
  match viewer.build object with
  | .ok graph => { viewer with pending, cache := viewer.cache.insert object.cacheKey graph }
  | .error _ => { viewer with pending }

/-- Ends all builds under way in the order in which they began. -/
def settle (viewer : CachedViewer) : CachedViewer :=
  viewer.pending.foldl finish viewer

/-- Builds a graph apart from the cache and hands it out. The builds that were under way before it end
first; a shutdown does not concern it. -/
def buildNow (viewer : CachedViewer) (object : Object) (cancelled : Bool) :
    Except ViewError Graph × CachedViewer :=
  (viewer.viewer.visit object cancelled, viewer.settle)

/-- Cancels the builds under way and all later ones. -/
def shutdown (viewer : CachedViewer) : CachedViewer :=
  { viewer with shutDown := true }

end CachedViewer

end ClusterGraph
