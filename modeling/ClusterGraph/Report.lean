import ClusterGraph.Text.Pieces

/-!
Reports of failures.

A report says what failed, and then what caused it, from the nearest cause on.
-/

namespace ClusterGraph

/-- What failed, and why. -/
structure Report where
  headline : String
  causes : List String := []
  deriving DecidableEq, Repr, Inhabited

namespace Report

/-- The report of a larger undertaking that failed because of this one. -/
def inContext (report : Report) (headline : String) : Report :=
  ⟨headline, report.headline :: report.causes⟩

/-- The report in one line. -/
def line (report : Report) : String :=
  ": ".intercalate (report.headline :: report.causes)

/-- A cause below its report, with its number where there are several. Its lines stand below one
another. -/
def causeText (numbered : Bool) (number : Nat) (cause : String) : String :=
  let width := if numbered then 7 else 4
  let mark := if numbered then (toString number ++ ": ").toList else []
  let gap := String.ofList ('\n' :: List.replicate width ' ')
  String.ofList (mark.leftpad width ' ') ++ gap.intercalate (Text.piecesAt '\n' cause)

/-- The report over several lines. -/
def text (report : Report) : String :=
  let numbered := 1 < report.causes.length
  let causes := report.causes.mapIdx (causeText numbered)
  "Error: " ++ report.headline ++
    if causes.isEmpty then "" else "\n\nCaused by:\n" ++ "\n".intercalate causes

end Report

end ClusterGraph
