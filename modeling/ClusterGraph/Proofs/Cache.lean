import ClusterGraph.Cache

/-!
# What a cache holds

A look-up finds the value of its key and changes no value (`fst_get`, `value?_get`). After an insertion
the key has the new value (`value?_insert_self`), and every other value was there before
(`value?_insert_eq_some`): room is made by taking entries out.

What the values are does not matter to the cache: it treats their images under a function as it treats
them (`get_map`, `insert_map`).
-/

namespace ClusterGraph

/-- An entry with the image of its value. -/
def CacheEntry.map {α β : Type} (f : α → β) (entry : CacheEntry α) : CacheEntry β where
  value := f entry.value
  lastUsed := entry.lastUsed

namespace Cache

variable {α β : Type} {cache : Cache α} {key k : String} {value w : α}

/-- The value under a key; asking for it counts as no use. -/
def value? (cache : Cache α) (key : String) : Option α :=
  cache.entries[key]?.map (·.value)

@[simp] theorem value?_empty (capacity : Nat) : (empty capacity : Cache α).value? key = none := by
  simp [value?, empty]

/-! ## Look-ups and insertions

A look-up writes the time of the use and nothing else, so that values can be read off the entries before
and after it alike. An insertion writes one entry after it has made room, and what `makeRoom` leaves was
there before: the two steps are inverted one by one, and an insertion is then their composition. -/

theorem fst_get (cache : Cache α) (key : String) : (cache.get key).1 = cache.value? key := by
  unfold get value?
  cases cache.entries[key]? <;> rfl

@[simp] theorem value?_get (cache : Cache α) (key : String) :
    (cache.get key).2.value? k = cache.value? k := by
  unfold get value?
  cases h : cache.entries[key]? with
  | none => rfl
  | some entry =>
    -- the entry that is written back has a new time and the old value
    simp only [Dict.getElem?_insert]
    by_cases hk : key = k
    · rw [if_pos hk, ← hk, h]
      rfl
    · rw [if_neg hk]

/-- Making room only takes entries out. -/
theorem getElem?_of_makeRoom {entry : CacheEntry α}
    (h : (cache.makeRoom key)[k]? = some entry) : cache.entries[k]? = some entry := by
  unfold makeRoom at h
  split at h
  · exact h
  · split at h
    · exact h
    · rw [Std.ExtTreeMap.getElem?_erase] at h
      split at h
      · cases h
      · exact h

@[simp] theorem value?_insert_self : (cache.insert key value).value? key = some value := by
  simp [value?, insert]

theorem value?_insert_eq_some (h : (cache.insert key value).value? k = some w) :
    key = k ∧ value = w ∨ cache.value? k = some w := by
  unfold value? insert at h
  rw [Dict.getElem?_insert] at h
  split at h
  · rename_i hk
    exact .inl ⟨hk, Option.some.inj h⟩
  · obtain ⟨entry, he, hw⟩ := Option.map_eq_some_iff.1 h
    exact .inr (Option.map_eq_some_iff.2 ⟨entry, getElem?_of_makeRoom he, hw⟩)

/-! ## Images of the values

Room is made by times of uses and keys alone. So replacing each value by its image commutes with every
operation: the lemmas go up from entries to the search for the oldest one, to the room that it makes, and
to the insertion. The background needs this for graphs that carry their origin along. -/

/-- The cache with every value replaced by its image. -/
def map (f : α → β) (cache : Cache α) : Cache β where
  capacity := cache.capacity
  clock := cache.clock
  entries := cache.entries.map fun _ => CacheEntry.map f

@[simp] theorem map_empty (f : α → β) (capacity : Nat) : (empty capacity).map f = empty capacity := by
  simp [map, empty]

@[simp] theorem value?_map (f : α → β) (cache : Cache α) :
    (cache.map f).value? key = (cache.value? key).map f := by
  simp [value?, map, CacheEntry.map, Std.ExtTreeMap.getElem?_map, Function.comp_def]

theorem map_insert_entries (f : α → β) (entries : Dict (CacheEntry α)) (entry : CacheEntry α) :
    (entries.insert key entry).map (fun _ => CacheEntry.map f) =
      (entries.map fun _ => CacheEntry.map f).insert key (entry.map f) := by
  refine Std.ExtTreeMap.ext_getElem? fun k => ?_
  rw [Std.ExtTreeMap.getElem?_map, Dict.getElem?_insert, Dict.getElem?_insert,
    Std.ExtTreeMap.getElem?_map]
  split <;> rfl

theorem map_erase_entries (f : α → β) (entries : Dict (CacheEntry α)) (key : String) :
    (entries.erase key).map (fun _ => CacheEntry.map f) =
      (entries.map fun _ => CacheEntry.map f).erase key := by
  refine Std.ExtTreeMap.ext_getElem? fun k => ?_
  rw [Std.ExtTreeMap.getElem?_map, Std.ExtTreeMap.getElem?_erase, Std.ExtTreeMap.getElem?_erase,
    Std.ExtTreeMap.getElem?_map]
  split <;> rfl

theorem get_map (f : α → β) (cache : Cache α) (key : String) :
    (cache.map f).get key = ((cache.get key).1.map f, (cache.get key).2.map f) := by
  have hentry : (cache.map f).entries[key]? = cache.entries[key]?.map (CacheEntry.map f) :=
    Std.ExtTreeMap.getElem?_map
  unfold get
  rw [hentry]
  cases cache.entries[key]? with
  | none => rfl
  | some entry =>
    simp only [Option.map_some, map, map_insert_entries]
    rfl

/-- Which of two entries has been unused longer does not depend on their values. -/
theorem older_map (f : α → β) (a b : String × CacheEntry α) :
    older (Prod.map id (CacheEntry.map f) a) (Prod.map id (CacheEntry.map f) b) =
      Prod.map id (CacheEntry.map f) (older a b) :=
  (apply_ite (Prod.map id (CacheEntry.map f)) _ b a).symm

theorem foldl_older_map (f : α → β) (rest : List (String × CacheEntry α))
    (first : String × CacheEntry α) :
    (rest.map (Prod.map id (CacheEntry.map f))).foldl older (Prod.map id (CacheEntry.map f) first) =
      Prod.map id (CacheEntry.map f) (rest.foldl older first) := by
  -- the search carries the best entry so far along, so that it is general in the induction
  induction rest generalizing first with
  | nil => rfl
  | cons entry rest ih =>
    rw [List.map_cons, List.foldl_cons, List.foldl_cons, older_map, ih]

theorem oldest?_map (f : α → β) (cache : Cache α) : (cache.map f).oldest? = cache.oldest? := by
  have hlist : (cache.map f).entries.toList =
      cache.entries.toList.map (Prod.map id (CacheEntry.map f)) := Std.ExtTreeMap.toList_map
  unfold oldest?
  rw [hlist]
  cases cache.entries.toList with
  | nil => rfl
  | cons first rest => exact congrArg (fun entry => some entry.1) (foldl_older_map f rest first)

theorem makeRoom_map (f : α → β) (cache : Cache α) (key : String) :
    (cache.map f).makeRoom key = (cache.makeRoom key).map fun _ => CacheEntry.map f := by
  have hfull : ((cache.map f).entries.contains key ||
      decide ((cache.map f).entries.size < (cache.map f).capacity)) =
      (cache.entries.contains key || decide (cache.entries.size < cache.capacity)) := by
    simp [map]
  -- both caches are full or neither is, and the same key goes
  unfold makeRoom
  rw [hfull, oldest?_map]
  split
  · rfl
  · cases cache.oldest? with
    | none => rfl
    | some oldest => exact (map_erase_entries f cache.entries oldest).symm

theorem insert_map (f : α → β) (cache : Cache α) (key : String) (value : α) :
    (cache.map f).insert key (f value) = (cache.insert key value).map f := by
  unfold insert
  rw [makeRoom_map]
  simp only [map, map_insert_entries]
  rfl

end Cache

end ClusterGraph
