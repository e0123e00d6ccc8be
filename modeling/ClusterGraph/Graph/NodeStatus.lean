import ClusterGraph.Json.Mismatch

/-!
The health of a node.

Four grades are told apart. The worse of two is an error before a warning before an unknown state
before a good one; it is what a group of nodes shows.
-/

namespace ClusterGraph

/-- The health of a node. -/
inductive NodeStatus where
  | ok
  | warning
  | error
  | unknown
  deriving DecidableEq, Repr, Inhabited

namespace NodeStatus

/-- All grades. -/
def all : List NodeStatus := [ok, warning, error, unknown]

/-- The word for a grade. -/
def word : NodeStatus → String
  | ok => "ok"
  | warning => "warning"
  | error => "error"
  | unknown => "unknown"

/-- The rank of a grade, the best one first. -/
def severity : NodeStatus → Nat
  | ok => 0
  | unknown => 1
  | warning => 2
  | error => 3

/-- The worse of two grades. -/
def worst (a b : NodeStatus) : NodeStatus :=
  if a.severity < b.severity then b else a

theorem severity_worst (a b : NodeStatus) :
    (a.worst b).severity = max a.severity b.severity := by
  cases a <;> cases b <;> rfl

theorem severity_injective {a b : NodeStatus} (h : a.severity = b.severity) : a = b := by
  revert h; cases a <;> cases b <;> decide

/-- The worst of several grades; good when there are none. -/
def worstOf (statuses : List NodeStatus) : NodeStatus :=
  statuses.foldl worst ok

/-- The grade with the given word, if it is one. -/
def ofWord? (word : String) : Option NodeStatus :=
  all.find? (·.word == word)

/-- The grade with the given word, or else a report of what was expected. -/
def ofWord (word : String) : Except Json.Mismatch NodeStatus :=
  match ofWord? word with
  | some status => .ok status
  | none => .error (.unknownVariant word (all.map NodeStatus.word))

/-- The grade that a document names: its word, or an object whose one key is the word and whose value
is `null`. -/
def ofJson : Json → Except Json.Mismatch NodeStatus
  | .str word => ofWord word
  | .obj [(word, value)] => do
    let status ← ofWord word
    match value with
    | .null => pure status
    | found => throw (.invalidType found "unit")
  | .obj fields => .error (.invalidValue (.obj fields) "map with a single key")
  | found => .error (.invalidType found "string or map")

end NodeStatus

end ClusterGraph
