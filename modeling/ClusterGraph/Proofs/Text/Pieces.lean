import ClusterGraph.Proofs.Text.Cut
import ClusterGraph.Text.Pieces

/-!
# Beginnings, ends and pieces of texts

* **`startsWith_iff`**, **`endsWith_iff`** — what it means that one text starts or ends with another.
* **`piecesAt_append`** — the first piece of a text reaches up to its first separator, and the others are
  those of what follows it; `exists_piecesAt_eq_cons_iff` says which text is the first piece.
-/

namespace ClusterGraph.Text

variable {c : Char} {separator s start ending : String}

/-! ## Beginnings and ends

Both tests are made on the characters, and a text that is left over is put together from those that
remain. -/

theorem startsWith_iff : startsWith start s = true ↔ ∃ rest, s = start ++ rest := by
  unfold startsWith
  rw [List.isPrefixOf_iff_prefix]
  constructor
  · rintro ⟨rest, h⟩
    exact ⟨String.ofList rest, String.toList_inj.1 (by simp [← h])⟩
  · rintro ⟨rest, rfl⟩
    exact ⟨rest.toList, by simp⟩

theorem endsWith_iff : endsWith ending s = true ↔ ∃ front, s = front ++ ending := by
  unfold endsWith
  rw [List.isSuffixOf_iff_suffix]
  constructor
  · rintro ⟨front, h⟩
    exact ⟨String.ofList front, String.toList_inj.1 (by simp [← h])⟩
  · rintro ⟨front, rfl⟩
    exact ⟨front.toList, by simp⟩

/-! ## Pieces

The recursion of `pieces` follows the characters, and agrees with the library's `List.splitOnP`, whose
lemmas tell how a text with a separator falls into pieces. -/

theorem pieces_eq_splitOnP (isSeparator : Char → Bool) (chars : List Char) :
    pieces isSeparator chars = chars.splitOnP isSeparator := by
  induction chars with
  | nil => rfl
  | cons c rest ih =>
    -- a character that is no separator goes to the first piece, and there always is one
    rw [pieces, List.splitOnP_cons_eq_if_modifyHead, ← ih]
    split
    · rfl
    · cases h : pieces isSeparator rest with
      | nil => exact absurd h (pieces_ne_nil isSeparator rest)
      | cons piece others => rfl

theorem piecesAt_of_notMem (h : c ∉ s.toList) : piecesAt c s = [s] := by
  have hnone : ∀ x ∈ s.toList, (x == c) = false := fun x hx =>
    beq_eq_false_iff_ne.2 fun heq => h (heq ▸ hx)
  rw [piecesAt, pieces_eq_splitOnP, List.splitOnP_eq_singleton hnone]
  simp

theorem piecesAt_append (hsep : separator.toList = [c]) (h : c ∉ start.toList) (s : String) :
    piecesAt c (start ++ separator ++ s) = start :: piecesAt c s := by
  have hnone : ∀ x ∈ start.toList, (x == c) = false := fun x hx =>
    beq_eq_false_iff_ne.2 fun heq => h (heq ▸ hx)
  rw [piecesAt, pieces_eq_splitOnP, toList_append_separator hsep,
    List.splitOnP_append_cons_of_forall_mem hnone c (beq_self_eq_true c), List.map_cons,
    ← pieces_eq_splitOnP]
  simp [piecesAt]

/-- A text has no separator, or it has a first one. -/
theorem notMem_or_exists_cut (hsep : separator.toList = [c]) (s : String) :
    c ∉ s.toList ∨ ∃ first rest, c ∉ first.toList ∧ s = first ++ separator ++ rest := by
  by_cases h : c ∈ s.toList
  · obtain ⟨first, rest, heq, hfirst⟩ := List.eq_append_cons_of_mem h
    refine Or.inr ⟨String.ofList first, String.ofList rest, by simpa using hfirst, ?_⟩
    rw [← String.toList_inj, toList_append_separator hsep, heq]
    simp
  · exact Or.inl h

theorem exists_piecesAt_eq_cons_iff (hsep : separator.toList = [c]) {first : String} :
    (∃ others, piecesAt c s = first :: others) ↔
      c ∉ first.toList ∧
        ∃ rest, s = first ++ rest ∧ (rest = "" ∨ ∃ more, rest = separator ++ more) := by
  constructor
  · rintro ⟨others, heq⟩
    -- the first piece is the whole text, or what comes before the first separator
    rcases notMem_or_exists_cut hsep s with h | ⟨start, rest, h, rfl⟩
    · rw [piecesAt_of_notMem h] at heq
      cases heq
      exact ⟨h, "", by simp, Or.inl rfl⟩
    · rw [piecesAt_append hsep h] at heq
      cases heq
      exact ⟨h, separator ++ rest, String.append_assoc .., Or.inr ⟨rest, rfl⟩⟩
  · rintro ⟨h, _, rfl, rfl | ⟨more, rfl⟩⟩
    · exact ⟨[], by rw [String.append_empty, piecesAt_of_notMem h]⟩
    · exact ⟨_, by rw [← String.append_assoc, piecesAt_append hsep h]⟩

end ClusterGraph.Text
