import ClusterGraph.Json.Basic
import ClusterGraph.Text.Escaped

/-!
Why a document does not have the form that is expected of it.

A mismatch names what was found and what was expected; of several faults in one document the one met
first, fields in ascending order of their keys, is reported.
-/

namespace ClusterGraph.Json

/-- The ways in which a document can fail to have an expected form. -/
inductive Mismatch where
  /-- A document of another kind. -/
  | invalidType (found : Json) (expected : String)
  /-- A document of the right kind with a value that is not allowed. -/
  | invalidValue (found : Json) (expected : String)
  /-- A word that is none of the known ones. -/
  | unknownVariant (found : String) (known : List String)
  /-- A field without which the document has no meaning. -/
  | missingField (name : String)
  /-- A list of values in place of fields that ends too early or too late. -/
  | invalidLength (length : Nat) (expected : String)
  /-- A fault with a wording of its own. -/
  | custom (text : String)
  deriving BEq, Repr, Inhabited

/-- A document as messages mention it: texts and numbers are shown, lists and objects are not. -/
def mention : Json → String
  | null => "null"
  | bool value => "boolean `" ++ toString value ++ "`"
  | int value => "integer `" ++ toString value ++ "`"
  | float value => "floating point `" ++ value.text ++ "`"
  | str value => "string " ++ Text.quoted value
  | arr _ => "sequence"
  | obj _ => "map"

namespace Mismatch

/-- A word in backquotes. -/
def ticked (word : String) : String := "`" ++ word ++ "`"

/-- The known words as a message lists them. -/
def oneOf : List String → String
  | [] => "there are no variants"
  | [word] => "expected " ++ ticked word
  | [first, second] => "expected " ++ ticked first ++ " or " ++ ticked second
  | words => "expected one of " ++ ", ".intercalate (words.map ticked)

/-- The wording of a mismatch. -/
def message : Mismatch → String
  | invalidType found expected => "invalid type: " ++ found.mention ++ ", expected " ++ expected
  | invalidValue found expected => "invalid value: " ++ found.mention ++ ", expected " ++ expected
  | unknownVariant found known => "unknown variant " ++ ticked found ++ ", " ++ oneOf known
  | missingField name => "missing field " ++ ticked name
  | invalidLength length expected => "invalid length " ++ toString length ++ ", expected " ++ expected
  | custom text => text

end Mismatch

end ClusterGraph.Json
