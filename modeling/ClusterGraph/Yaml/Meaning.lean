import ClusterGraph.Decimal.Binary64
import ClusterGraph.Text.Escaped
import ClusterGraph.Yaml.Node

/-!
What a scalar means.

A plain scalar is empty or a word for null, a word for a truth value, an integer, a number, or else a
text; all other scalars are texts. Integers are decimal or, after `0x`, `0o` and `0b`, of another base.
Decimal digits with a leading zero are a text. A tag of the standard set asks for one of these readings.
-/

namespace ClusterGraph.Yaml

/-- What a scalar means. -/
inductive Meaning where
  | null
  | bool (value : Bool)
  | int (value : Int)
  /-- An integer that has more than 64 but not more than 128 bits. -/
  | wideInt
  /-- A number; infinite and undefined ones have no digits. -/
  | number (value : Option Decimal)
  | text (value : String)
  deriving DecidableEq, Repr, Inhabited

namespace Meaning

/-- The words for null. -/
def nullWords : List String := ["null", "Null", "NULL", "~"]

/-- The truth value of a word. -/
def bool? (s : String) : Option Bool :=
  if ["true", "True", "TRUE"].contains s then some true
  else if ["false", "False", "FALSE"].contains s then some false
  else none

/-- The value of a digit in a base. -/
def digit? (base : Nat) (c : Char) : Option Nat :=
  (Text.hexDigit? c).filter (· < base)

/-- The number that digits of a base spell; there must be at least one. -/
def digits? (base : Nat) (s : List Char) : Option Nat :=
  if s.isEmpty then none
  else s.foldlM (fun n c => do some (n * base + (← digit? base c))) 0

/-- Whether a scalar consists of digits of which the first of several is zero. -/
def hasLeadingZero (s : List Char) : Bool :=
  let s := match s with
    | '-' :: rest => rest
    | '+' :: rest => rest
    | s => s
  match s with
  | '0' :: c :: rest => (c :: rest).all Char.isDigit
  | _ => false

/-- A magnitude in the base that a prefix names, or in decimal. A magnitude that does not fit the
widest word has no reading here. -/
def magnitude? (limit : Nat) (isPlainDecimal : Bool) (s : List Char) : Option Nat :=
  let based := match s with
    | '0' :: 'x' :: rest => digits? 16 rest
    | '0' :: 'o' :: rest => digits? 8 rest
    | '0' :: 'b' :: rest => digits? 2 rest
    | _ => none
  (based.or (if isPlainDecimal then digits? 10 s else none)).filter (· ≤ limit)

/-- The reading of an integer. -/
def int? (s : List Char) : Option Meaning :=
  let isPlainDecimal := !hasLeadingZero s
  match s with
  | '-' :: rest =>
    (magnitude? (Nat.pow 2 127) isPlainDecimal rest).map fun n =>
      if n ≤ Nat.pow 2 63 then .int (-(n : Int)) else .wideInt
  | s =>
    let rest := match s with
      | '+' :: rest => rest
      | s => s
    (magnitude? (Nat.pow 2 128 - 1) isPlainDecimal rest).map fun n =>
      if n < Nat.pow 2 64 then .int n else .wideInt

/-- The exponent of a number: nothing, or a letter, perhaps a sign, and digits. -/
def exponent? (s : List Char) : Option Int :=
  match s with
  | [] => some 0
  | c :: rest =>
    if c == 'e' || c == 'E' then
      match rest with
      | '-' :: digits => (digits? 10 digits).map fun n => -(n : Int)
      | '+' :: digits => (digits? 10 digits).map fun n => (n : Int)
      | digits => (digits? 10 digits).map fun n => (n : Int)
    else none

/-- A finite number without sign: digits with a point anywhere among them, and an exponent. -/
def finite? (negative : Bool) (s : List Char) : Option Decimal := do
  let whole := s.takeWhile Char.isDigit
  let rest := s.dropWhile Char.isDigit
  let (fraction, rest) := match rest with
    | '.' :: rest => (rest.takeWhile Char.isDigit, rest.dropWhile Char.isDigit)
    | rest => ([], rest)
  let digits ← digits? 10 (whole ++ fraction)
  let exponent ← exponent? rest
  (← Binary64.ofDecimal? digits (exponent - fraction.length)).toDecimal negative

/-- The reading of a number. A second sign is refused. -/
def number? (s : List Char) : Option (Option Decimal) :=
  let (negative, signed, rest) := match s with
    | '-' :: rest => (true, true, rest)
    | '+' :: rest => (false, true, rest)
    | s => (false, false, s)
  let word := String.ofList rest
  if [".inf", ".Inf", ".INF"].contains word then some none
  else if !signed && [".nan", ".NaN", ".NAN"].contains word then some none
  else (finite? negative rest).map some

/-- The meaning of a plain scalar without tag. -/
def ofPlain (s : String) : Meaning :=
  if s.isEmpty || nullWords.contains s then .null
  else
    match bool? s with
    | some value => .bool value
    | none =>
      match int? s.toList with
      | some meaning => meaning
      | none =>
        if hasLeadingZero s.toList then .text s
        else
          match number? s.toList with
          | some value => .number value
          | none => .text s

/-- The full form of a standard tag. -/
def standardTag (name : String) : String :=
  "tag:yaml.org,2002:" ++ name

/-- The meaning of a scalar with a tag that is not one of an application, or without a tag. Where the
tag asks for a reading that the text does not have there is none. -/
def ofScalar? (tag : Option String) (s : String) (style : Style) : Option Meaning :=
  match tag with
  | none => some (if style == .plain then ofPlain s else .text s)
  | some tag =>
    if tag == standardTag "bool" then (bool? s).map .bool
    else if tag == standardTag "int" then int? s.toList
    else if tag == standardTag "float" then (number? s.toList).map .number
    else if tag == standardTag "null" then if nullWords.contains s then some .null else none
    else some (.text s)

end Meaning

namespace Properties

/-- The name of an application's own tag. -/
def variant? (properties : Properties) : Option String :=
  match properties.tag.map String.toList with
  | some ['!'] => some "!"
  | some ('!' :: name) => some (String.ofList name)
  | _ => none

end Properties

end ClusterGraph.Yaml
