import ClusterGraph.Json.Basic
import ClusterGraph.Yaml.Meaning

/-!
Documents as values.

The keys of a mapping must be texts, each once, and tags of applications have no value. Infinite and
undefined numbers become null. Lists and mappings may be nested 128 deep, and all aliases together may
be followed a hundred times for each mark of the document; both limits stop aliases that contain
themselves.
-/

namespace ClusterGraph.Yaml

/-- The number of lists and mappings that may be nested. -/
def depthLimit : Nat := 128

/-- Reading a document from its root, with the number of times that an alias may still be followed. -/
abbrev Read := ReaderT Node (StateT Nat Option)

/-- The node itself, or the one that an alias stands for. -/
def Node.follow (node : Node) : Read Node := fun root jumps =>
  match node with
  | .reference anchor =>
    if jumps = 0 then none else do some (← root.lastAnchored anchor, jumps - 1)
  | node => some (node, jumps)

/-- What a reader finds at the root of a document. -/
def Node.read? {α : Type} (reader : Node → Read α) (root : Node) : Option α :=
  ((reader root root).run (root.size * 100)).map (·.1)

/-- What a reader finds in a text that has a single document. -/
def readText? {α : Type} (reader : Node → Read α) (s : String) : Option α :=
  match documents s with
  | [some root] => root.read? reader
  | _ => none

/-- The value of a meaning. -/
def Meaning.value? : Meaning → Option Json
  | null => some .null
  | bool value => some (.bool value)
  | int value => some (.int value)
  | wideInt => none
  | number (some value) => some (.float value)
  | number none => some .null
  | text value => some (.str value)

/-- The entries of a mapping in ascending order of their keys, which must be texts and different. -/
def entriesValue? (entries : List (Json × Json)) : Option Json := do
  let fields ← entries.mapM fun
    | (.str key, value) => some (key, value)
    | _ => none
  let sorted := Json.sortFields fields
  if sorted.length = fields.length then some (.obj sorted) else none

/-- The value of a node with at most `depth` lists and mappings within each other. -/
def Node.valueAt : (depth : Nat) → Node → Read Json
  | depth, node => do
    match ← node.follow with
    | .reference _ => failure
    | .scalar properties text style =>
      if properties.variant?.isSome then failure
      (← Meaning.ofScalar? properties.tag text style : Meaning).value?
    | .seq properties items =>
      if properties.variant?.isSome then failure
      match depth with
      | 0 => failure
      | depth + 1 => return .arr (← items.mapM (Node.valueAt depth))
    | .map properties entries =>
      if properties.variant?.isSome then failure
      match depth with
      | 0 => failure
      | depth + 1 =>
        let entries ← entries.mapM fun (key, value) => do
          return (← Node.valueAt depth key, ← Node.valueAt depth value)
        entriesValue? entries

/-- The value of a document. -/
def Node.value? (root : Node) : Option Json :=
  root.read? (Node.valueAt depthLimit)

/-- Whether a document is null; a tag of an application does not change that. -/
def Node.isNull : Node → Bool
  | .scalar properties text style =>
    if properties.variant?.isSome then style == .plain && Meaning.ofPlain text == .null
    else Meaning.ofScalar? properties.tag text style == some .null
  | _ => false

/-- What a document of a stream holds: nothing that can be read, nothing at all, or a value. The value of
an undefined number is null, and yet a document with such a number is not empty. -/
inductive Document where
  | unreadable
  | empty
  | value (json : Json)
  deriving Repr, Inhabited

/-- The document with a given root; a null document is empty whatever its tag. -/
def Document.ofRoot (root : Node) : Document :=
  if root.isNull then .empty
  else
    match root.value? with
    | some json => .value json
    | none => .unreadable

/-- The documents of a stream. A fault of the text ends it. -/
def stream (s : String) : List Document :=
  (documents s).map fun root => (root.map .ofRoot).getD .unreadable

end ClusterGraph.Yaml
