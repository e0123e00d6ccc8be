import ClusterGraph.Yaml.Value

/-!
Records from documents.

A program that knows what a document is about reads it without asking what its scalars mean by
themselves: where a text is due every scalar is one, and where a list or a record is due a place with
nothing in it will do. An explicit null is missing only where a value is optional. Fields that are not
known are passed over.
-/

namespace ClusterGraph.Yaml.Node

/-- Whether nothing is written at the place of a scalar. -/
def isBlank (text : String) (style : Style) : Bool :=
  text.isEmpty && style == .plain

/-- A text: what is written in a scalar. -/
def text (node : Node) : Read String := do
  match ← node.follow with
  | .scalar _ text _ => return text
  | _ => failure

/-- Whether a scalar may stand for a value of a kind that has no quotes: a plain one, or a literal one
whose tag names the kind. -/
def isBare (kind : String) (properties : Properties) (style : Style) : Bool :=
  style == .plain || (style == .literal && properties.tag == some (Meaning.standardTag kind))

/-- A truth value. -/
def flag (node : Node) : Read Bool := do
  match ← node.follow with
  | .scalar properties text style =>
    guard (isBare "bool" properties style)
    Meaning.bool? text
  | _ => failure

/-- A natural number of at most 64 bits. -/
def natural (node : Node) : Read Nat := do
  match ← node.follow with
  | .scalar properties text style =>
    guard (isBare "int" properties style)
    match Meaning.int? text.toList with
    | some (.int value) =>
      guard (0 ≤ value)
      return value.toNat
    | _ => failure
  | _ => failure

/-- Whether a node stands for the absence of a value. There is no answer for a node that claims to be
null and is not. -/
def absent? : Node → Option Bool
  | .scalar properties text .plain =>
    match properties.tag with
    | none => some (text.isEmpty || Meaning.nullWords.contains text)
    | some tag =>
      if tag != Meaning.standardTag "null" then some false
      else if Meaning.nullWords.contains text then some true
      else none
  | _ => some false

/-- A value that may be absent. -/
def optional {α : Type} (reader : Node → Read α) (node : Node) : Read (Option α) := do
  let node ← node.follow
  if ← absent? node then return none else return some (← reader node)

/-- A list. -/
def listOf {α : Type} (reader : Node → Read α) (node : Node) : Read (List α) := do
  match ← node.follow with
  | .seq _ items => items.mapM reader
  | .scalar _ text style =>
    guard (isBlank text style)
    return []
  | _ => failure

/-- One of some words, given by a scalar or by the tag of an empty one. -/
def word {α : Type} (value? : String → Option α) (node : Node) : Read α := do
  match ← node.follow with
  | .scalar properties text style =>
    match properties.variant? with
    | some name =>
      guard (style == .plain && (text.isEmpty || Meaning.nullWords.contains text))
      value? name
    | none => value? text
  | _ => failure

/-- The known fields of a record in the order of the document; none of them may be given twice. -/
def fieldsOf (known : List String) (node : Node) : Read (List (String × Node)) := do
  match ← node.follow with
  | .map _ entries =>
    let fields ← entries.mapM fun (key, value) => do return (← key.text, value)
    let fields := fields.filter fun (key, _) => known.contains key
    guard (fields.map (·.1)).Nodup
    return fields
  | .scalar _ text style =>
    guard (isBlank text style)
    return []
  | _ => failure

/-- A field that a record must have. -/
def requiredIn {α : Type} (fields : List (String × Node)) (key : String) (reader : Node → Read α) :
    Read α := do
  reader (← (fields.lookup key : Option Node))

/-- A field with a default value. -/
def fieldIn {α : Type} (fields : List (String × Node)) (key : String) (reader : Node → Read α)
    (default : α) : Read α :=
  match fields.lookup key with
  | some node => reader node
  | none => pure default

end ClusterGraph.Yaml.Node
