import ClusterGraph.Decimal.Basic

/-!
JSON documents.

Whole numbers from -2^63 to 2^64 - 1 are kept as integers, all others as decimals. The fields of a
document that was read are in ascending order of their keys, each key once; a document that is built
to be shown keeps the order in which its fields were given.
-/

namespace ClusterGraph

/-- A JSON document. -/
inductive Json where
  | null
  | bool (value : Bool)
  | int (value : Int)
  | float (value : Decimal)
  | str (value : String)
  | arr (items : List Json)
  | obj (fields : List (String × Json))
  deriving BEq, Repr, Inhabited

namespace Json

/-- Puts a value under a key in an ascending list of fields, replacing an earlier value. -/
def insertField {α : Type} (key : String) (value : α) :
    List (String × α) → List (String × α)
  | [] => [(key, value)]
  | (k, v) :: rest =>
    if key < k then (key, value) :: (k, v) :: rest
    else if key = k then (key, value) :: rest
    else (k, v) :: insertField key value rest

/-- The fields in ascending order of their keys; of equal keys the last value stays. -/
def sortFields {α : Type} (fields : List (String × α)) : List (String × α) :=
  fields.foldl (fun acc (key, value) => insertField key value acc) []

/-- The value of a field in a list of fields. -/
def lookupField {α : Type} (fields : List (String × α)) (key : String) : Option α :=
  fields.lookup key

/-- The fields of an object; none for every other document. -/
def fields : Json → List (String × Json)
  | obj fields => fields
  | _ => []

/-- The value of a field, where the document is an object that has it. -/
def get? (json : Json) (key : String) : Option Json :=
  lookupField json.fields key

/-- Whether a document is `null`. -/
def isNull : Json → Bool
  | null => true
  | _ => false

theorem isNull_iff {json : Json} : json.isNull = true ↔ json = null := by
  cases json <;> simp [isNull]

/-- The value of a field that is present and not `null`. -/
def present? (json : Json) (key : String) : Option Json :=
  match json.get? key with
  | some null => none
  | value => value

/-- The items of a list; none for every other document. -/
def items : Json → List Json
  | arr items => items
  | _ => []

/-- The text of a string. -/
def text? : Json → Option String
  | str text => some text
  | _ => none

/-- The value of an integer. -/
def int? : Json → Option Int
  | int value => some value
  | _ => none

/-- The value of a Boolean. -/
def bool? : Json → Option Bool
  | bool value => some value
  | _ => none

/-- The value at the end of a path of field names. -/
def at? (json : Json) : List String → Option Json
  | [] => some json
  | key :: path => do (← json.get? key).at? path

/-- The text of a string field, or the empty text. -/
def textAt (json : Json) (key : String) : String :=
  ((json.get? key).bind text?).getD ""

/-- The items of a list field, or none. -/
def itemsAt (json : Json) (key : String) : List Json :=
  ((json.get? key).map items).getD []

/-- A list of texts as a document. -/
def ofTexts (texts : List String) : Json :=
  arr (texts.map str)

/-- An optional text as a document. -/
def ofText? : Option String → Json
  | some text => str text
  | none => null

end Json

end ClusterGraph
