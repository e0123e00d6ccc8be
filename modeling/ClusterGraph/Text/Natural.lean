/-!
Natural numbers in texts.

A number consists of decimal digits of ASCII, perhaps after a plus sign, and must be below a limit.
The first fault from the left is reported.
-/

namespace ClusterGraph.Text

/-- Why a text is no number. -/
inductive NumberFault where
  | empty
  | invalidDigit
  | tooLarge
  deriving DecidableEq, Repr, Inhabited

namespace NumberFault

/-- The wording of a fault. -/
def message : NumberFault → String
  | empty => "cannot parse integer from empty string"
  | invalidDigit => "invalid digit found in string"
  | tooLarge => "number too large to fit in target type"

end NumberFault

/-- Puts a digit behind a number that must stay below a limit. -/
def appendDigit (limit n : Nat) (c : Char) : Except NumberFault Nat :=
  if !c.isDigit then .error .invalidDigit
  else if n * 10 + (c.toNat - 48) < limit then .ok (n * 10 + (c.toNat - 48))
  else .error .tooLarge

/-- The digits of a number without its sign; a sign alone is no number. -/
def unsigned : List Char → List Char
  | '+' :: c :: rest => c :: rest
  | s => s

/-- The number below a limit that a text spells. -/
def natural (limit : Nat) (s : String) : Except NumberFault Nat :=
  if s.isEmpty then .error .empty else (unsigned s.toList).foldlM (appendDigit limit) 0

end ClusterGraph.Text
