import ClusterGraph.Object.Identity
import ClusterGraph.Proofs.Text.Natural

/-!
# Identifiers of groups

The identifier of a group is read from left to right in one way only. The size of a part ends where the
first colon stands, since a colon is no digit; and the size says how many bytes the part has, whatever
characters these bytes spell:

* **`append_inj_of_size`** — a size is cut off a text in one way, as any number is, and so is a part of
  known size.
* **`sizedPart_append_inj`** — so is a part with its size before it.
* **`join_sizedPart_inj`** — so are all parts in turn, however many there are.
* **`nodeId_inj`** — groups with one identifier have one key.
-/

namespace ClusterGraph.PodGroupKey

variable {a b : PodGroupKey} {part other s t : String}

/-- Equal texts that begin with parts of one size begin alike and go on alike. -/
theorem append_inj_of_size (h : part ++ s = other ++ t)
    (hsize : part.utf8ByteSize = other.utf8ByteSize) : part = other ∧ s = t := by
  -- sizes are counted in bytes, and so the texts are compared as bytes
  have hbytes : part.toByteArray ++ s.toByteArray = other.toByteArray ++ t.toByteArray := by
    rw [← String.toByteArray_append, h, String.toByteArray_append]
  have hpart : part = other := String.toByteArray_inj.1 (ByteArray.append_inj_left hbytes hsize)
  subst hpart
  exact ⟨rfl, (String.append_right_inj part).1 h⟩

/-- **A part with its size is cut off a text in one way only.** -/
theorem sizedPart_append_inj :
    sizedPart part ++ s = sizedPart other ++ t ↔ part = other ∧ s = t := by
  constructor
  · intro h
    have hsized : toString part.utf8ByteSize ++ ":" ++ (part ++ s) =
        toString other.utf8ByteSize ++ ":" ++ (other ++ t) := by
      simpa [sizedPart, String.append_assoc] using h
    -- first the size, which ends at the first colon, then the part that it announces
    obtain ⟨hsize, hrest⟩ := (Text.number_cut rfl rfl).1 hsized
    exact append_inj_of_size hrest hsize
  · rintro ⟨rfl, rfl⟩
    rfl

theorem sizedPart_append_ne_empty (part s : String) : sizedPart part ++ s ≠ "" := by
  simp [sizedPart]

/-- **A text of parts, however many, is taken apart in one way only.** -/
theorem join_sizedPart_inj {parts others : List String} :
    String.join (parts.map sizedPart) = String.join (others.map sizedPart) ↔ parts = others := by
  refine ⟨fun h => ?_, fun h => by rw [h]⟩
  -- a list of parts that is empty comes to the empty text, and any other one does not
  induction parts generalizing others with
  | nil =>
    cases others with
    | nil => rfl
    | cons other others =>
      rw [List.map_cons, String.join_cons] at h
      exact absurd h.symm (sizedPart_append_ne_empty other _)
  | cons part parts ih =>
    cases others with
    | nil =>
      rw [List.map_cons, String.join_cons] at h
      exact absurd h (sizedPart_append_ne_empty part _)
    | cons other others =>
      rw [List.map_cons, List.map_cons, String.join_cons, String.join_cons] at h
      obtain ⟨hpart, hrest⟩ := sizedPart_append_inj.1 h
      rw [hpart, ih hrest]

theorem parts_inj : a.parts = b.parts ↔ a = b := by
  cases a
  cases b
  simp [parts]

/-- **Groups with one identifier have one key.** This holds of all texts that a key may consist of: of empty
ones, of those that look like a size with its colons, and of those whose characters take several bytes. -/
theorem nodeId_inj : a.nodeId = b.nodeId ↔ a = b := by
  unfold nodeId
  rw [String.append_right_inj, join_sizedPart_inj, parts_inj]

/-- Without their sizes the parts of these two keys would come to the same text. -/
example : nodeId ⟨"a", "1:b", "X", "c"⟩ ≠ nodeId ⟨"a:1", "b", "X", "c"⟩ := by
  decide

end ClusterGraph.PodGroupKey
