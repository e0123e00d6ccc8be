import ClusterGraph.Graph.Component

/-!
One edge for each pair of nodes.

Both ends of a relation may report it. Of the edges between two nodes the one met first is kept, when
sources are walked in ascending order; edges from a node to itself are dropped. The targets of each
source come out in ascending order.
-/

namespace ClusterGraph.AdjacencyList

/-- The edges as pairs of source and target: sources ascending, targets in the order of their list. -/
def pairs (edges : AdjacencyList) : List (String × String) :=
  edges.toList.flatMap fun (source, targets) => targets.map (source, ·)

/-- Whether a pair is met for the first time: its ends differ and neither direction was kept. -/
def isNew (kept : List (String × String)) (pair : String × String) : Bool :=
  pair.1 != pair.2 && !kept.contains pair && !kept.contains (pair.2, pair.1)

/-- Adds a pair to the kept ones if it is new. -/
def keepNew (kept : List (String × String)) (pair : String × String) : List (String × String) :=
  if isNew kept pair then kept ++ [pair] else kept

/-- Puts a target into the list of a source, keeping the list ascending. -/
def insertTarget (target : String) : List String → List String
  | [] => [target]
  | t :: rest => if target < t then target :: t :: rest else t :: insertTarget target rest

/-- The adjacency list of some pairs, targets ascending. -/
def ofPairs (pairs : List (String × String)) : AdjacencyList :=
  pairs.foldl (fun edges (source, target) =>
    edges.insert source (insertTarget target (edges[source]?.getD []))) ∅

/-- One edge for each pair of nodes that an edge connects. -/
def dedup (edges : AdjacencyList) : AdjacencyList :=
  ofPairs (edges.pairs.foldl keepNew [])

end ClusterGraph.AdjacencyList
