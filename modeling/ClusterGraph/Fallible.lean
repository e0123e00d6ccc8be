/-!
Computations that may fail.

What is known of the parts of a computation that has gone through: of its first part and of what follows it,
of the checks it begins with, of the items of a list that it was mapped over, and of what it was before its
error was put into other words.
-/

namespace ClusterGraph

/-- What goes through has gone through in its first part and in what follows it. -/
theorem bind_eq_ok {ε α β : Type} {first : Except ε α} {next : α → Except ε β} {b : β} :
    first >>= next = .ok b ↔ ∃ a, first = .ok a ∧ next a = .ok b := by
  cases first with
  | error e =>
    constructor
    · intro h
      cases h
    · rintro ⟨_, h, _⟩
      cases h
  | ok a =>
    constructor
    · exact fun h => ⟨a, rfl, h⟩
    · rintro ⟨_, h, hb⟩
      cases h
      exact hb

/-- What fails has failed in its first part, or in what follows it. -/
theorem bind_eq_error {ε α β : Type} {first : Except ε α} {next : α → Except ε β} {e : ε} :
    first >>= next = .error e ↔ first = .error e ∨ ∃ a, first = .ok a ∧ next a = .error e := by
  cases first with
  | error e' =>
    show Except.error e' = _ ↔ _
    simp
  | ok a =>
    show next a = _ ↔ _
    simp

/-- What begins with a check goes through if the check finds no fault and the rest goes through. -/
theorem check_eq_ok {ε β : Type} {p : Prop} [Decidable p] {error : ε} {rest : Unit → Except ε β}
    {b : β} : (if p then throw error >>= rest else rest ()) = .ok b ↔ ¬p ∧ rest () = .ok b := by
  by_cases hp : p
  · rw [if_pos hp]
    exact ⟨nofun, fun h => absurd hp h.1⟩
  · simp [hp]

/-- The results of a successful map over a list are those of its items, in order. -/
theorem map_eq_of_mapM_eq_ok {ε α β : Type} {f : α → Except ε β} {items : List α}
    {results : List β} (h : items.mapM f = .ok results) : items.map f = results.map .ok := by
  induction items generalizing results with
  | nil =>
    cases h
    rfl
  | cons item rest ih =>
    rw [List.mapM_cons] at h
    obtain ⟨first, hf, h⟩ := bind_eq_ok.1 h
    obtain ⟨others, hr, h⟩ := bind_eq_ok.1 h
    cases h
    rw [List.map_cons, List.map_cons, hf, ih hr]

/-- Every result of a successful map over a list belongs to one of its items. -/
theorem mem_mapM_iff {ε α β : Type} {f : α → Except ε β} {items : List α} {results : List β}
    (h : items.mapM f = .ok results) {result : β} :
    result ∈ results ↔ ∃ item ∈ items, f item = .ok result := by
  rw [← List.mem_map, map_eq_of_mapM_eq_ok h, List.mem_map]
  exact ⟨fun hm => ⟨result, hm, rfl⟩, fun ⟨_, hm, heq⟩ => Except.ok.inj heq ▸ hm⟩

theorem mapError_ok {ε ε' α : Type} (f : ε → ε') (a : α) :
    (Except.ok a : Except ε α).mapError f = .ok a :=
  rfl

/-- Other words for the error do not change the result. -/
theorem mapError_eq_ok {ε ε' α : Type} {f : ε → ε'} {r : Except ε α} {a : α} :
    r.mapError f = .ok a ↔ r = .ok a := by
  cases r with
  | error e => exact ⟨nofun, nofun⟩
  | ok b => rw [mapError_ok, Except.ok.injEq, Except.ok.injEq]

theorem toOption_eq_some {ε α : Type} {r : Except ε α} {a : α} :
    r.toOption = some a ↔ r = .ok a := by
  cases r with
  | error e => exact ⟨nofun, nofun⟩
  | ok b =>
    show some b = some a ↔ _
    rw [Option.some.injEq, Except.ok.injEq]

theorem toOption_eq_none {ε α : Type} {r : Except ε α} :
    r.toOption = none ↔ ∃ e, r = .error e := by
  cases r with
  | error e => exact ⟨fun _ => ⟨e, rfl⟩, fun _ => rfl⟩
  | ok b => exact ⟨nofun, nofun⟩

/-- A map over a list only depends on the result for each item. -/
theorem mapM_congr {ε α β : Type} {f g : α → Except ε β} {items : List α}
    (h : ∀ item ∈ items, f item = g item) : items.mapM f = items.mapM g := by
  induction items with
  | nil => rfl
  | cons item rest ih =>
    have hrest : rest.mapM f = rest.mapM g := ih fun other ho => h other (List.mem_cons_of_mem _ ho)
    rw [List.mapM_cons, List.mapM_cons, h item List.mem_cons_self, hrest]

theorem ok_of_mapM_eq_ok {ε α β : Type} {f : α → Except ε β} {items : List α} {results : List β}
    (h : items.mapM f = .ok results) {item : α} (hm : item ∈ items) :
    ∃ result, f item = .ok result := by
  have hresult : f item ∈ results.map .ok := by
    rw [← map_eq_of_mapM_eq_ok h]
    exact List.mem_map_of_mem hm
  obtain ⟨result, _, heq⟩ := List.mem_map.1 hresult
  exact ⟨result, heq.symm⟩

/-- A map over a list goes through if it does for each item. -/
theorem exists_mapM_eq_ok {ε α β : Type} {f : α → Except ε β} {items : List α}
    (h : ∀ item ∈ items, ∃ result, f item = .ok result) : ∃ results, items.mapM f = .ok results := by
  induction items with
  | nil => exact ⟨[], rfl⟩
  | cons item rest ih =>
    obtain ⟨result, hf⟩ := h item List.mem_cons_self
    obtain ⟨results, hr⟩ := ih fun other ho => h other (List.mem_cons_of_mem _ ho)
    refine ⟨result :: results, ?_⟩
    rw [List.mapM_cons, hf, hr]
    rfl

/-- A map over a list fails at the first of its items that fails. -/
theorem mapM_eq_error {ε α β : Type} {f : α → Except ε β} {items : List α} {e : ε} :
    items.mapM f = .error e ↔
      ∃ front item back, items = front ++ item :: back ∧
        (∀ other ∈ front, ∃ result, f other = .ok result) ∧ f item = .error e := by
  induction items with
  | nil =>
    constructor
    · exact nofun
    · rintro ⟨front, item, back, h, -⟩
      simp at h
  | cons first rest ih =>
    rw [List.mapM_cons, bind_eq_error]
    constructor
    · rintro (hf | ⟨result, hf, h⟩)
      · exact ⟨[], first, rest, rfl, by simp, hf⟩
      · rcases bind_eq_error.1 h with hr | ⟨_, _, h⟩
        · obtain ⟨front, item, back, rfl, hfront, hitem⟩ := ih.1 hr
          refine ⟨first :: front, item, back, rfl, ?_, hitem⟩
          rintro other (_ | ⟨_, ho⟩)
          · exact ⟨result, hf⟩
          · exact hfront other ho
        · cases h
    · rintro ⟨front, item, back, h, hfront, hitem⟩
      cases front with
      | nil =>
        cases h
        exact Or.inl hitem
      | cons head front =>
        cases h
        obtain ⟨result, hf⟩ := hfront first List.mem_cons_self
        have hrest := ih.2 ⟨front, item, back, rfl,
          fun other ho => hfront other (List.mem_cons_of_mem _ ho), hitem⟩
        exact Or.inr ⟨result, hf, bind_eq_error.2 (Or.inl hrest)⟩

end ClusterGraph
