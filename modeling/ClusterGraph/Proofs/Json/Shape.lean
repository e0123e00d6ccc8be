import ClusterGraph.Fallible
import ClusterGraph.Json.Shape

/-!
# What a checked document holds

A document that has the form of a shape has, wherever the shape speaks of a field, nothing or a value of the
form that the field is to have:

* **`Shape.checkFields_eq_ok_iff`** — no fault is found in the fields of a record exactly if this is so for
  each of them.
* **`Shape.check_at?`** — and then it is so at the end of each path of field names.
* **`Shape.check_int32_iff`** — what has the form of a counter is a whole number of 32 bits.
-/

namespace ClusterGraph.Json.Shape

variable {shape leaf : Shape} {known : List (String × Shape)} {fields : List (String × Json)}

/-- The shape of what stands at the end of a path of field names. -/
def at? (shape : Shape) : List String → Option Shape
  | [] => some shape
  | key :: path =>
    match shape with
    | .record _ known => (field? known key).bind (·.at? path)
    | _ => none

/-- What stands in a field of some shape: `null`, where that counts as absent, or a value of the shape. -/
def Admits (shape : Shape) (value : Json) : Prop :=
  (shape.allowsNull = true ∧ value = .null) ∨ shape.check value = .ok ()

theorem checkFields_cons {key : String} {value : Json} :
    checkFields known ((key, value) :: fields) = .ok () ↔
      (∀ shape, field? known key = some shape → shape.Admits value) ∧
        checkFields known fields = .ok () := by
  rw [checkFields]
  cases hk : field? known key with
  | none => simp
  | some shape =>
    simp only [Option.some.injEq, forall_eq', Admits, ← isNull_iff, ← Bool.and_eq_true]
    by_cases hnull : (shape.allowsNull && value.isNull) = true
    · simp [hnull]
    · -- the field is checked, and then the rest
      simp only [if_neg hnull, bind_eq_ok, or_iff_right hnull]
      exact ⟨fun ⟨_, h⟩ => h, fun h => ⟨(), h⟩⟩

/-- No fault is found in fields exactly if each known one is absent or of its shape. -/
theorem checkFields_eq_ok_iff : checkFields known fields = .ok () ↔
    ∀ field ∈ fields, ∀ shape, field? known field.1 = some shape → shape.Admits field.2 := by
  induction fields with
  | nil => simp [checkFields]
  | cons field rest ih => rw [checkFields_cons, List.forall_mem_cons, ih]

theorem admits_lookupField (h : checkFields known fields = .ok ()) {key : String} {value : Json}
    (hs : field? known key = some shape) (hv : lookupField fields key = some value) :
    shape.Admits value := by
  -- what is looked up is one of the fields, all of which were checked
  obtain ⟨before, after, rfl, -⟩ := List.lookup_eq_some_iff.1 hv
  exact checkFields_eq_ok_iff.1 h (key, value) (by simp) shape hs

theorem exists_fields_of_check_record {name : String} {json : Json}
    (h : (record name known).check json = .ok ()) :
    ∃ fields, json = .obj fields ∧ checkFields known fields = .ok () := by
  cases json with
  | obj fields =>
    rw [check] at h
    exact ⟨fields, rfl, h⟩
  | _ => cases h

/-- **At the end of a path stands nothing, or a value of the form that the shape has there.** -/
theorem check_at? {json found : Json} {path : List String} (h : shape.check json = .ok ())
    (hs : shape.at? path = some leaf) (hf : json.at? path = some found) : leaf.Admits found := by
  -- down the path, through the shape and the document at once
  induction path generalizing shape json with
  | nil =>
    cases hs
    cases hf
    exact Or.inr h
  | cons key path ih =>
    cases shape with
    | record name known =>
      obtain ⟨fields, rfl, hfields⟩ := exists_fields_of_check_record h
      obtain ⟨sub, hsub, hs⟩ := Option.bind_eq_some_iff.1 hs
      obtain ⟨value, hvalue, hf⟩ := Option.bind_eq_some_iff.1 hf
      rcases admits_lookupField hfields hsub hvalue with ⟨hnull, rfl⟩ | hcheck
      · -- below a field that is null there is nothing
        cases path with
        | nil =>
          cases hs
          exact Or.inl ⟨hnull, (Option.some.inj hf).symm⟩
        | cons _ _ => cases hf
      · exact ih hcheck hs hf
    | _ => cases hs

/-- Of the form of a counter are the whole numbers of 32 bits. -/
theorem check_int32_iff {json : Json} : int32.check json = .ok () ↔
    ∃ number : Int, json = .int number ∧ -2147483648 ≤ number ∧ number < 2147483648 := by
  cases json with
  | int number =>
    show checkWord 32 "i32" "i32" (.int number) = .ok () ↔ _
    rw [checkWord]
    split <;> simp_all
  | _ => exact ⟨nofun, nofun⟩

end ClusterGraph.Json.Shape
