import ClusterGraph.Graph.Dedup
import ClusterGraph.Graph.Render

/-!
What a traversal reports, and the graph made of it.

A recording notes which objects were processed and which relations were reported. The graph shows the
processed objects: pods of one controller as one group when grouping is on, all others each as a node
of its own. Relations become edges between the nodes that are shown; an edge of ownership leads from
the owner to what it owns.
-/

namespace ClusterGraph

/-- The objects met so far, which of them were processed, and the relations between them. -/
structure Recording where
  objects : Dict Object := ∅
  processed : Keys := ∅
  edges : Dict Keys := ∅
  deriving Inhabited

/-- How objects are shown: with or without groups of pods, and how their status and link are found. -/
structure View where
  grouping : Bool
  resolver : StatusResolver
  layout : LinkResolver

/-- Refuses an object that has neither a type nor a name. -/
def Object.validate (object : Object) : Except GraphError Unit :=
  if object.isEmpty then .error (.invalidObject "object has no type and no name") else .ok ()

/-- The group that shows a pod, where grouping is on. -/
def Object.groupKey? (grouping : Bool) (object : Object) : Option PodGroupKey :=
  if grouping && object.isKind .pod then PodGroupKey.ofPod? object else none

/-- The identifier of the node that shows an object, if one does. -/
def Object.visibleId? (grouping : Bool) (object : Object) : Option String :=
  if object.isSkipped then none
  else some (((object.groupKey? grouping).map (·.nodeId)).getD object.id)

namespace Recording

/-- Notes that an object was processed. A later one with the same identifier takes its place. -/
def process (recording : Recording) (object : Object) : Except GraphError Recording := do
  object.validate
  pure
    { recording with
      objects := recording.objects.insert object.id object
      processed := recording.processed.insert object.id }

/-- The ends of a relation as they are kept: a pod of a group is never the first. -/
def orient (grouping : Bool) (parent child : Object) : Object × Object :=
  if (parent.groupKey? grouping).isSome then (child, parent) else (parent, child)

/-- Notes a relation between two objects; one of an object to itself is ignored. -/
def addEdge (recording : Recording) (grouping : Bool) (parent child : Object) :
    Except GraphError Recording := do
  parent.validate
  child.validate
  let (parent, child) := orient grouping parent child
  if parent.id = child.id then pure recording
  else
    pure
      { recording with
        objects := (recording.objects.insertAbsent parent.id parent).insertAbsent child.id child
        edges := recording.edges.insert parent.id
          ((recording.edges[parent.id]?.getD ∅).insert child.id) }

/-- The processed objects in ascending order of their identifiers. -/
def processedObjects (recording : Recording) : List (String × Object) :=
  recording.processed.toList.filterMap fun id => recording.objects[id]?.map (id, ·)

/-- The identifiers of the nodes that are shown. -/
def visibleIds (recording : Recording) (grouping : Bool) : Keys :=
  .ofList (recording.processedObjects.filterMap fun (_, object) => object.visibleId? grouping)

/-- The recorded relations, ascending, with the objects at their ends. -/
def relations (recording : Recording) : List (Object × Object) :=
  recording.edges.toList.flatMap fun (parentId, children) =>
    match recording.objects[parentId]? with
    | none => []
    | some parent =>
      children.toList.filterMap fun childId => recording.objects[childId]?.map (parent, ·)

/-- An edge of ownership or use, before it is known whether it is shown. -/
structure Arrow where
  source : String
  target : String
  owned : Object
  owner : Object

/-- The edge that a relation between objects of different nodes becomes. -/
def arrow? (grouping : Bool) (parent child : Object) : Option Arrow := do
  let parentNode ← parent.visibleId? grouping
  let childNode ← child.visibleId? grouping
  if parentNode = childNode then none
  else if parent.isOwnedBy child then some ⟨childNode, parentNode, parent, child⟩
  else some ⟨parentNode, childNode, child, parent⟩

/-- Whether an edge leads from a group of pods back to their controller. -/
def Arrow.leadsToController (arrow : Arrow) (grouping : Bool) : Bool :=
  match arrow.owned.groupKey? grouping with
  | none => false
  | some key =>
    arrow.source == key.nodeId && arrow.target == arrow.owner.id &&
      arrow.owner.kind == key.ownerKind && arrow.owner.nameAny == key.ownerName

/-- Whether an edge is shown: both of its ends are, and it does not lead back to a controller. -/
def Arrow.isShown (arrow : Arrow) (grouping : Bool) (visible : Keys) : Bool :=
  !arrow.leadsToController grouping && visible.contains arrow.source &&
    visible.contains arrow.target

/-- Adds an edge to an adjacency list, unless it is there. -/
def addArrow (edges : AdjacencyList) (arrow : Arrow) : AdjacencyList :=
  let targets := edges[arrow.source]?.getD []
  if targets.contains arrow.target then edges
  else edges.insert arrow.source (targets ++ [arrow.target])

/-- All edges that are shown, before one is chosen for each pair of nodes. -/
def shownEdges (recording : Recording) (grouping : Bool) : AdjacencyList :=
  let visible := recording.visibleIds grouping
  let arrows := recording.relations.filterMap fun (parent, child) => arrow? grouping parent child
  (arrows.filter (·.isShown grouping visible)).foldl addArrow ∅

/-- The edges of the graph, one for each pair of nodes. -/
def adjacencyList (recording : Recording) (grouping : Bool) : AdjacencyList :=
  (recording.shownEdges grouping).dedup

/-! ## Nodes -/

/-- The processed objects that are shown each by itself. -/
def singles (recording : Recording) (grouping : Bool) : List (String × Object) :=
  recording.processedObjects.filter fun (_, object) => (object.groupKey? grouping).isNone

/-- The processed pods that a group shows. -/
def members (recording : Recording) (grouping : Bool) (key : PodGroupKey) : List Object :=
  (recording.processedObjects.map (·.2)).filter (·.groupKey? grouping == some key)

/-- Puts a key among ascending ones, once. -/
def insertKey (key : PodGroupKey) : List PodGroupKey → List PodGroupKey
  | [] => [key]
  | k :: rest =>
    if key = k then k :: rest
    else if (key.compare k).isLT then key :: k :: rest
    else k :: insertKey key rest

/-- The keys of all groups, ascending. -/
def groupKeys (recording : Recording) (grouping : Bool) : List PodGroupKey :=
  (recording.processedObjects.filterMap fun (_, object) => object.groupKey? grouping).foldl
    (fun keys key => insertKey key keys) []

/-- Adds the node of a single object. -/
def addSingle (view : View) (nodes : Dict Node) (entry : String × Object) :
    Except GraphError (Dict Node) :=
  match NodeOutcome.ofObject view.resolver view.layout entry.2 with
  | .rendered node => .ok (nodes.insert entry.1 node)
  | .skipped => .ok nodes
  | .failed error => .error error

/-- Adds the node of a group; its identifier must be new. -/
def addGroup (recording : Recording) (view : View) (nodes : Dict Node) (key : PodGroupKey) :
    Except GraphError (Dict Node) :=
  if nodes.contains key.nodeId then .error (.duplicateNode key.nodeId)
  else
    .ok (nodes.insert key.nodeId
      (Node.ofPods view.resolver key.displayName (recording.members view.grouping key)))

/-- The nodes of the graph: first the single objects, then the groups. The first failure counts. -/
def nodes (recording : Recording) (view : View) : Except GraphError (Dict Node) := do
  let nodes ← (recording.singles view.grouping).foldlM (addSingle view) ∅
  (recording.groupKeys view.grouping).foldlM (addGroup recording view) nodes

/-- The node to highlight for an identifier: the group of a processed pod, else the node itself. -/
def selection (recording : Recording) (grouping : Bool) (selected : String) : String :=
  if recording.processed.contains selected then
    ((recording.objects[selected]?.bind (·.groupKey? grouping)).map (·.nodeId)).getD selected
  else selected

/-- The edges whose ends are both among the nodes. -/
def edgesAmong (edges : AdjacencyList) (nodes : Dict Node) : AdjacencyList :=
  edges.filterMap fun source targets =>
    let targets := targets.filter nodes.contains
    if nodes.contains source && !targets.isEmpty then some targets else none

/-- The graph of a recording. -/
def graph (recording : Recording) (view : View) (selected : String) : Except GraphError Graph := do
  let nodes ← recording.nodes view
  pure
    { nodes
      edges := edgesAmong (recording.adjacencyList view.grouping) nodes
      selected := recording.selection view.grouping selected }

/-! ## Requests -/

/-- The nodes, for a request that may have been cancelled; then none is made. -/
def requestNodes (recording : Recording) (view : View) (cancelled : Bool) :
    Except GraphError (Dict Node) :=
  if cancelled then .error .cancelled else recording.nodes view

/-- The graph, for a request that may have been cancelled; then no node is made. -/
def requestGraph (recording : Recording) (view : View) (selected : String) (cancelled : Bool) :
    Except GraphError Graph :=
  if cancelled then .error .cancelled else recording.graph view selected

end Recording

end ClusterGraph
