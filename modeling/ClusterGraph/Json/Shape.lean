import ClusterGraph.Json.Mismatch
import ClusterGraph.Text.Timestamp

/-!
Shapes of documents, as data.

A shape says which kind of value stands where. A field of a record may be absent, and it may be `null`
unless its text is fixed; an unknown field is ignored, and an item of a list or a value of a dictionary may
not be `null`. `Shape.check` visits fields in the order in which the document holds them and reports the
first fault.
-/

namespace ClusterGraph.Json

/-- The form that is expected of a document. -/
inductive Shape where
  | anything
  | text
  | exactly (word : String)
  | flag
  | int32
  | int64
  | intOrText
  | timestamp
  | list (item : Shape)
  | dict (value : Shape)
  | record (name : String) (fields : List (String × Shape))
  deriving Inhabited

/-- The words by which a message names a shape. -/
def Shape.expected : Shape → String
  | anything => "any value"
  | text | exactly _ => "a string"
  | flag => "a boolean"
  | int32 => "i32"
  | int64 => "i64"
  | intOrText => "IntOrString"
  | timestamp => "an RFC 3339 formatted date and time string"
  | list _ => "a sequence"
  | dict _ => "a map"
  | record name _ => name

/-- Checks an integer against the bounds of a signed word. -/
def checkWord (bits : Nat) (name outside : String) : Json → Except Mismatch Unit
  | int value =>
    if -(Nat.pow 2 (bits - 1) : Int) ≤ value ∧ value < Nat.pow 2 (bits - 1) then .ok ()
    else .error (.invalidValue (.int value) outside)
  | found => .error (.invalidType found name)

/-- Whether `null` counts as absent in a field of a shape. -/
def Shape.allowsNull : Shape → Bool
  | exactly _ => false
  | _ => true

/-- A name of the table is looked up in the fields of a record. -/
def Shape.field? (fields : List (String × Shape)) (key : String) : Option Shape :=
  fields.lookup key

mutual

/-- Checks a document against a shape. -/
def Shape.check (shape : Shape) : Json → Except Mismatch Unit
  | arr items =>
    match shape with
    | .anything => .ok ()
    | .list item => Shape.checkItems item items
    | shape => .error (.invalidType (arr items) shape.expected)
  | obj fields =>
    match shape with
    | .anything => .ok ()
    | .dict value => Shape.checkValues value fields
    | .record _ known => Shape.checkFields known fields
    | shape => .error (.invalidType (obj fields) shape.expected)
  | json =>
    match shape, json with
    | .anything, _ => .ok ()
    | .text, .str _ => .ok ()
    | .exactly word, .str found => if found = word then .ok () else .error (.invalidValue (.str found) word)
    | .flag, .bool _ => .ok ()
    | .int32, json => checkWord 32 "i32" "i32" json
    | .int64, json => checkWord 64 "i64" "i64" json
    | .intOrText, .str _ => .ok ()
    | .intOrText, json => checkWord 32 "IntOrString" "a 32-bit integer" json
    | .timestamp, .str stamp =>
      match Text.checkTimestamp stamp with
      | .ok () => .ok ()
      | .error fault => .error (.custom fault.message)
    | shape, json => .error (.invalidType json shape.expected)

/-- Checks every item of a list. -/
def Shape.checkItems (item : Shape) : List Json → Except Mismatch Unit
  | [] => .ok ()
  | json :: rest => do
    item.check json
    Shape.checkItems item rest

/-- Checks every value of a dictionary. -/
def Shape.checkValues (value : Shape) : List (String × Json) → Except Mismatch Unit
  | [] => .ok ()
  | (_, json) :: rest => do
    value.check json
    Shape.checkValues value rest

/-- Checks the known fields of a record. -/
def Shape.checkFields (known : List (String × Shape)) : List (String × Json) → Except Mismatch Unit
  | [] => .ok ()
  | (key, json) :: rest => do
    match Shape.field? known key with
    | none => pure ()
    | some shape => if shape.allowsNull && json.isNull then pure () else shape.check json
    Shape.checkFields known rest

end

end ClusterGraph.Json
