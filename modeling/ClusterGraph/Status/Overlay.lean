import ClusterGraph.Graph.Component

/-!
What is known about the health of an object.

A status is a grade with remarks. An overlay changes a status: a grade that it gives replaces the one
that was there, and its remarks follow those that were there. Overlays compose, and putting two of them
on a status one after the other is the same as putting their composition on it.
-/

namespace ClusterGraph

/-- The grade of an object with remarks on it. -/
structure ObjectStatus where
  status : NodeStatus := .ok
  details : List Component := []
  deriving DecidableEq, Repr, Inhabited

/-- A change of a status: perhaps another grade, and further remarks. -/
structure Overlay where
  status : Option NodeStatus := none
  details : List Component := []
  deriving DecidableEq, Repr, Inhabited

namespace Overlay

/-- Whether the overlay changes nothing. -/
def isEmpty (overlay : Overlay) : Bool :=
  overlay.status.isNone && overlay.details.isEmpty

/-- The overlay that has the effect of two, the later one second. -/
def merge (earlier later : Overlay) : Overlay :=
  ⟨later.status.or earlier.status, earlier.details ++ later.details⟩

@[simp] theorem empty_merge (overlay : Overlay) : merge {} overlay = overlay := by
  cases overlay with
  | mk status details => cases status <;> rfl

theorem merge_assoc (a b c : Overlay) : (a.merge b).merge c = a.merge (b.merge c) := by
  cases a; cases b
  rename_i c₁ c₂
  cases c with
  | mk status details => cases status <;> cases c₁ <;> simp [merge, List.append_assoc]

end Overlay

namespace ObjectStatus

/-- A grade with one text. -/
def said (status : NodeStatus) (text : String) : ObjectStatus :=
  ⟨status, [.text text]⟩

/-- The status under an overlay. -/
def apply (status : ObjectStatus) (overlay : Overlay) : ObjectStatus :=
  ⟨overlay.status.getD status.status, status.details ++ overlay.details⟩

theorem apply_merge (status : ObjectStatus) (a b : Overlay) :
    status.apply (a.merge b) = (status.apply a).apply b := by
  cases b with
  | mk grade details => cases grade <;> simp [apply, Overlay.merge, List.append_assoc]

end ObjectStatus

end ClusterGraph
