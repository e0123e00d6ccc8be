import ClusterGraph.Dict
import ClusterGraph.Graph.NodeStatus

/-!
The graph as it is shown.

A node has a name, a type, a health, and components: remarks on it, and perhaps the place that it leads
to. Nodes are kept under their identifiers; each source of edges lists its targets. `toJson` gives the
documents that a front end reads, with their fields in a fixed order.
-/

namespace ClusterGraph

/-- A place that a node leads to: its text and its path. -/
structure Link where
  value : String
  reference : String
  deriving DecidableEq, Repr, Inhabited

mutual

/-- A part of what a node shows below its name: a text, a link, or the pods of a group under their names,
ascending. -/
inductive Component where
  | text (value : String)
  | link (target : Link)
  | podStatus (pods : List (String × PodSummary))
  deriving Repr, Inhabited

/-- What one pod contributes to its group. -/
structure PodSummary where
  details : List Component
  status : NodeStatus
  deriving Repr, Inhabited

end

mutual

/-- Whether two components are the same. -/
def Component.decEq : (a b : Component) → Decidable (a = b)
  | .text a, .text b => decidable_of_iff (a = b) (by simp)
  | .link a, .link b => decidable_of_iff (a = b) (by simp)
  | .podStatus pods, .podStatus others =>
    have := PodSummary.decEqPods pods others
    decidable_of_iff (pods = others) (by simp)
  | .text _, .link _ | .text _, .podStatus _ | .link _, .text _ | .link _, .podStatus _
  | .podStatus _, .text _ | .podStatus _, .link _ => isFalse nofun
termination_by structural a => a

/-- Whether two components in a row are the same as two others. -/
def Component.decEqList : (as bs : List Component) → Decidable (as = bs)
  | [], [] => isTrue rfl
  | [], _ :: _ | _ :: _, [] => isFalse nofun
  | a :: as, b :: bs =>
    have := a.decEq b
    have := Component.decEqList as bs
    decidable_of_iff (a = b ∧ as = bs) (by simp)
termination_by structural as => as

/-- Whether two summaries are the same. -/
def PodSummary.decEq : (a b : PodSummary) → Decidable (a = b)
  | ⟨details, status⟩, ⟨others, other⟩ =>
    have := Component.decEqList details others
    decidable_of_iff (details = others ∧ status = other) (by simp)
termination_by structural a => a

/-- Whether two lists have the same summaries under the same names. -/
def PodSummary.decEqPods : (pods others : List (String × PodSummary)) → Decidable (pods = others)
  | [], [] => isTrue rfl
  | [], _ :: _ | _ :: _, [] => isFalse nofun
  | (name, pod) :: pods, (other, twin) :: others =>
    have := pod.decEq twin
    have := PodSummary.decEqPods pods others
    decidable_of_iff (name = other ∧ pod = twin ∧ pods = others) (by simp [and_assoc])
termination_by structural pods => pods

end

instance : DecidableEq Component := Component.decEq

instance : DecidableEq PodSummary := PodSummary.decEq

/-- The pods of a group by their names. -/
abbrev PodStatus := Dict PodSummary

namespace PodStatus

/-- Notes the summary of a pod; a later one for the same name takes its place. -/
def add (pods : PodStatus) (name : String) (summary : PodSummary) : PodStatus :=
  pods.insert name summary

/-- The worst health among the pods. -/
def status (pods : PodStatus) : NodeStatus :=
  NodeStatus.worstOf (pods.toList.map (·.2.status))

/-- The pods as they are shown. -/
def component (pods : PodStatus) : Component :=
  .podStatus pods.toList

theorem component_inj {pods others : PodStatus} : pods.component = others.component ↔ pods = others := by
  rw [component, component, Component.podStatus.injEq, Std.ExtTreeMap.toList_inj]

end PodStatus

/-- A node of the graph. -/
structure Node where
  name : String
  apiVersion : String
  kind : String
  status : NodeStatus
  details : List Component
  path : Option Component
  deriving Inhabited

/-- The targets of the edges that leave each source. -/
abbrev AdjacencyList := Dict (List String)

/-- A graph with the node that is to be highlighted. -/
structure Graph where
  nodes : Dict Node
  edges : AdjacencyList
  selected : String
  deriving Inhabited

/-- A document of a given type with its settings. -/
def envelope (type : String) (config : Json) : Json :=
  .obj [("metadata", .obj [("type", .str type)]), ("config", config)]

mutual

/-- A part of a node as a document. -/
def Component.toJson : Component → Json
  | .text value => envelope "text" (.obj [("value", .str value)])
  | .link target =>
    envelope "link" (.obj [("value", .str target.value), ("ref", .str target.reference)])
  | .podStatus pods => envelope "podStatus" (.obj [("pods", .obj (PodSummary.podsJson pods))])
termination_by structural component => component

/-- Parts of a node as documents. -/
def Component.listJson : List Component → List Json
  | [] => []
  | component :: rest => component.toJson :: Component.listJson rest
termination_by structural components => components

/-- What one pod contributes, as a document. -/
def PodSummary.toJson : PodSummary → Json
  | ⟨details, status⟩ =>
    .obj [("details", .arr (Component.listJson details)), ("status", .str status.word)]
termination_by structural summary => summary

/-- What pods contribute, each under its name. -/
def PodSummary.podsJson : List (String × PodSummary) → List (String × Json)
  | [] => []
  | (name, summary) :: rest => (name, summary.toJson) :: PodSummary.podsJson rest
termination_by structural pods => pods

end

namespace Node

/-- A node as a document; without a path that field is absent. -/
def toJson (node : Node) : Json :=
  .obj <|
    [("name", .str node.name), ("apiVersion", .str node.apiVersion), ("kind", .str node.kind),
      ("status", .str node.status.word), ("details", .arr (Component.listJson node.details))] ++
      (node.path.map fun path => ("path", path.toJson)).toList

end Node

/-- Nodes under their identifiers as a document. -/
def nodesJson (nodes : Dict Node) : Json :=
  .obj (nodes.toList.map fun (id, node) => (id, node.toJson))

/-- An edge to a target as a document. -/
def edgeJson (target : String) : Json :=
  .obj [("node", .str target), ("type", .str "explicit")]

/-- Edges as a document. -/
def AdjacencyList.toJson (edges : AdjacencyList) : Json :=
  .obj (edges.toList.map fun (source, targets) => (source, .arr (targets.map edgeJson)))

namespace Graph

/-- The title under which every graph is shown. -/
def title : String := "Resource Viewer"

/-- The highlighted node, where it exists. -/
def selectedNode? (graph : Graph) : Option Node :=
  graph.nodes[graph.selected]?

/-- The number of edges. -/
def edgeCount (graph : Graph) : Nat :=
  (graph.edges.toList.map (·.2.length)).foldl (· + ·) 0

/-- The graph as a document. -/
def toJson (graph : Graph) : Json :=
  .obj
    [("metadata", .obj [("type", .str "resourceViewer"), ("title", .arr [(Component.text title).toJson])]),
      ("config", .obj
        [("edges", AdjacencyList.toJson graph.edges), ("nodes", nodesJson graph.nodes),
          ("selected", .str graph.selected)])]

end Graph

end ClusterGraph
