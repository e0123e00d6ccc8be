import Mathlib.Data.List.TakeWhile

/-!
# Texts that a separator divides

Two parts with a separator between them can be told from the whole as long as it is known which copy of the
separator is meant:

* **`cut_first`** — the first one, if it does not occur in the first part.
* **`cut_last`** — the last one, if it does not occur in the last part.
-/

namespace ClusterGraph.Text

variable {c : Char} {separator a b s t : String}

/-! ## Lists of characters

What comes before the first copy of a character is what is taken up to it. So the first part and, with it,
the rest are determined. -/

theorem takeWhile_append_cons {part rest : List Char} (h : c ∉ part) :
    (part ++ c :: rest).takeWhile (· != c) = part := by
  have hpart : ∀ x ∈ part, (x != c) = true := fun x hx => bne_iff_ne.2 fun heq => h (heq ▸ hx)
  rw [List.takeWhile_append_of_pos hpart, List.takeWhile_cons_of_neg (by simp), List.append_nil]

/-- A list is cut at the first copy of an item in one way. -/
theorem append_cons_inj {part other rest others : List Char} (hp : c ∉ part) (ho : c ∉ other)
    (h : part ++ c :: rest = other ++ c :: others) : part = other ∧ rest = others := by
  have hparts : part = other := calc
    part = (part ++ c :: rest).takeWhile (· != c) := (takeWhile_append_cons hp).symm
    _ = (other ++ c :: others).takeWhile (· != c) := congrArg _ h
    _ = other := takeWhile_append_cons ho
  subst hparts
  exact ⟨rfl, (List.cons.inj (List.append_cancel_left h)).2⟩

/-! ## Texts

A separator of one character makes the statements about texts those about their characters, read forwards
for its first copy and backwards for its last one. -/

theorem toList_append_separator (hsep : separator.toList = [c]) (a s : String) :
    (a ++ separator ++ s).toList = a.toList ++ c :: s.toList := by
  simp [hsep]

/-- **A text is cut at its first separator in one way.** -/
theorem cut_first (hsep : separator.toList = [c]) (ha : c ∉ a.toList) (hb : c ∉ b.toList) :
    a ++ separator ++ s = b ++ separator ++ t ↔ a = b ∧ s = t := by
  refine ⟨fun h => ?_, fun h => by rw [h.1, h.2]⟩
  have hchars : a.toList ++ c :: s.toList = b.toList ++ c :: t.toList := by
    rw [← toList_append_separator hsep, h, toList_append_separator hsep]
  obtain ⟨hleft, hright⟩ := append_cons_inj ha hb hchars
  exact ⟨String.toList_inj.1 hleft, String.toList_inj.1 hright⟩

/-- **A text is cut at its last separator in one way.** -/
theorem cut_last (hsep : separator.toList = [c]) (hs : c ∉ s.toList) (ht : c ∉ t.toList) :
    a ++ separator ++ s = b ++ separator ++ t ↔ a = b ∧ s = t := by
  refine ⟨fun h => ?_, fun h => by rw [h.1, h.2]⟩
  have hchars : a.toList ++ c :: s.toList = b.toList ++ c :: t.toList := by
    rw [← toList_append_separator hsep, h, toList_append_separator hsep]
  -- read backwards, the last separator is the first one
  have hback : s.toList.reverse ++ c :: a.toList.reverse =
      t.toList.reverse ++ c :: b.toList.reverse := by
    simpa using congrArg List.reverse hchars
  obtain ⟨hright, hleft⟩ := append_cons_inj (by simpa using hs) (by simpa using ht) hback
  exact ⟨String.toList_inj.1 (List.reverse_inj.1 hleft),
    String.toList_inj.1 (List.reverse_inj.1 hright)⟩

end ClusterGraph.Text
