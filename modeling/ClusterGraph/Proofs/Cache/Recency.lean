import Mathlib.Data.List.Nodup
import ClusterGraph.Proofs.Cache
import ClusterGraph.Proofs.Dict

/-!
# What a full cache forgets

A cache keeps the time of the last use with each entry, and looks through all of its entries for the
oldest one when it needs room. What is meant is simpler: a list of the entries, the one used last at its
head, from whose end an entry is dropped (`RecencyList`).

* **`Orders`** — the times put the entries of a cache in a strict order, and none lies ahead of the clock.
  Every call keeps this.
* **`Orders.oldestAmong_eq`** — so there is one oldest entry, the last one of the list, and a search that
  meets the entries in another order finds the same.
* **`answers_eq_recency`** — a cache and the list give the same answers to all calls.

A table that is not sorted may list its entries in any order, and in another one each time. `Run` leaves
this open: each insertion searches some listing of the entries.
-/

namespace ClusterGraph

/-- The entries of a cache, the one that was used last first. -/
structure RecencyList (α : Type) where
  capacity : Nat
  entries : List (String × α) := []

inductive CacheCall (α : Type) where
  | get (key : String)
  | insert (key : String) (value : α)
  | remove (key : String)
  | contains (key : String)
  | size

inductive CacheAnswer (α : Type) where
  | found (value : Option α)
  | inserted
  | contained (answer : Bool)
  | counted (number : Nat)
  deriving DecidableEq

namespace RecencyList

variable {α : Type}

def without (list : RecencyList α) (key : String) : List (String × α) :=
  list.entries.filter (·.1 != key)

/-- What is found goes to the head; a look-up in vain leaves everything as it is. -/
def get (list : RecencyList α) (key : String) : Option α × RecencyList α :=
  match list.entries.lookup key with
  | none => (none, list)
  | some value => (some value, { list with entries := (key, value) :: list.without key })

/-- What stays when an entry comes: all but the old one of its key, or everything, or, if there are as many
entries as there may be, everything but the last one. -/
def others (list : RecencyList α) (key : String) : List (String × α) :=
  if (list.entries.lookup key).isSome then list.without key
  else if list.entries.length < list.capacity then list.entries
  else list.entries.dropLast

/-- The new entry goes to the head. -/
def insert (list : RecencyList α) (key : String) (value : α) : RecencyList α :=
  { list with entries := (key, value) :: list.others key }

def remove (list : RecencyList α) (key : String) : Option α × RecencyList α :=
  (list.entries.lookup key, { list with entries := list.without key })

def answer (list : RecencyList α) : CacheCall α → CacheAnswer α × RecencyList α
  | .get key => (.found (list.get key).1, (list.get key).2)
  | .insert key value => (.inserted, list.insert key value)
  | .remove key => (.found (list.remove key).1, (list.remove key).2)
  | .contains key => (.contained (list.entries.lookup key).isSome, list)
  | .size => (.counted list.entries.length, list)

/-- The answers to calls one after another, and what is left at the end. -/
def answerAll (list : RecencyList α) : List (CacheCall α) → List (CacheAnswer α) × RecencyList α
  | [] => ([], list)
  | call :: calls =>
    let (answers, final) := (list.answer call).2.answerAll calls
    ((list.answer call).1 :: answers, final)

end RecencyList

namespace Cache

variable {α : Type} {cache next final : Cache α} {call : CacheCall α} {calls : List (CacheCall α)}
  {reply : CacheAnswer α} {replies : List (CacheAnswer α)}

/-! ## Calls of a cache

`answerAll` is the cache itself. `Run` is the same with one thing left open, the order in which an
insertion meets the entries when it looks for the oldest one. `run_answerAll` says that the cache is one
of these runs; that it is the only one takes the order of the last uses. -/

def answer (cache : Cache α) : CacheCall α → CacheAnswer α × Cache α
  | .get key => (.found (cache.get key).1, (cache.get key).2)
  | .insert key value => (.inserted, cache.insert key value)
  | .remove key => (.found (cache.remove key).1, (cache.remove key).2)
  | .contains key => (.contained (cache.contains key), cache)
  | .size => (.counted cache.size, cache)

def answerAll (cache : Cache α) : List (CacheCall α) → List (CacheAnswer α) × Cache α
  | [] => ([], cache)
  | call :: calls =>
    let (answers, final) := (cache.answer call).2.answerAll calls
    ((cache.answer call).1 :: answers, final)

/-- What a search for the oldest entry finds in a listing of the entries: the first of the oldest. -/
def oldestAmong : List (String × CacheEntry α) → Option String
  | [] => none
  | first :: rest => some (rest.foldl older first).1

/-- The entries after room was made for a key, if the search meets them as they are listed. -/
def makeRoomListed (cache : Cache α) (listing : List (String × CacheEntry α)) (key : String) :
    Dict (CacheEntry α) :=
  if cache.entries.contains key || cache.entries.size < cache.capacity then cache.entries
  else
    match oldestAmong listing with
    | none => cache.entries
    | some oldest => cache.entries.erase oldest

/-- An insertion that searches the entries as they are listed. -/
def insertListed (cache : Cache α) (listing : List (String × CacheEntry α)) (key : String)
    (value : α) : Cache α :=
  let clock := cache.clock + 1
  { cache with clock, entries := (cache.makeRoomListed listing key).insert key ⟨value, clock⟩ }

/-- One call of a cache whose entries are listed in no particular order. -/
inductive Step (cache : Cache α) : CacheCall α → CacheAnswer α → Cache α → Prop where
  | get (key : String) : Step cache (.get key) (.found (cache.get key).1) (cache.get key).2
  | insert (key : String) (value : α) {listing : List (String × CacheEntry α)}
      (h : listing.Perm cache.entries.toList) :
      Step cache (.insert key value) .inserted (cache.insertListed listing key value)
  | remove (key : String) :
      Step cache (.remove key) (.found (cache.remove key).1) (cache.remove key).2
  | contains (key : String) : Step cache (.contains key) (.contained (cache.contains key)) cache
  | size : Step cache .size (.counted cache.size) cache

/-- Calls one after another with their answers. -/
inductive Run : Cache α → List (CacheCall α) → List (CacheAnswer α) → Cache α → Prop where
  | nil (cache : Cache α) : Run cache [] [] cache
  | cons {cache next final : Cache α} {call : CacheCall α} {calls : List (CacheCall α)}
      {reply : CacheAnswer α} {replies : List (CacheAnswer α)} (h : Step cache call reply next)
      (hr : Run next calls replies final) : Run cache (call :: calls) (reply :: replies) final

theorem oldest?_eq (cache : Cache α) : cache.oldest? = oldestAmong cache.entries.toList := by
  unfold oldest?
  cases cache.entries.toList <;> rfl

/-- The cache itself is the one that lists its entries in the order of their keys. -/
theorem insertListed_toList (cache : Cache α) (key : String) (value : α) :
    cache.insertListed cache.entries.toList key value = cache.insert key value := by
  unfold insertListed makeRoomListed
  rw [← oldest?_eq]
  rfl

theorem step_answer (cache : Cache α) (call : CacheCall α) :
    Step cache call (cache.answer call).1 (cache.answer call).2 := by
  cases call with
  | get key => exact .get key
  | insert key value =>
    have hs : Step cache (.insert key value) .inserted
        (cache.insertListed cache.entries.toList key value) := .insert key value (List.Perm.refl _)
    rw [insertListed_toList] at hs
    exact hs
  | remove key => exact .remove key
  | contains key => exact .contains key
  | size => exact .size

theorem run_answerAll (cache : Cache α) (calls : List (CacheCall α)) :
    Run cache calls (cache.answerAll calls).1 (cache.answerAll calls).2 := by
  induction calls generalizing cache with
  | nil => exact .nil cache
  | cons call calls ih => exact .cons (step_answer cache call) (ih _)

/-! ## The order of the last uses

The clock moves before a time is written, so that a new time is later than all that were written before.
Therefore the times never agree, and the entries of a cache have one order by their last uses. `Orders` is
this invariant, with one lemma for each way in which an operation changes the entries. -/

variable {uses init : List (String × CacheEntry α)} {entries : Dict (CacheEntry α)} {clock : Nat}

/-- The entries of a cache, listed from the latest use to the earliest one. -/
structure Orders (uses : List (String × CacheEntry α)) (entries : Dict (CacheEntry α))
    (clock : Nat) : Prop where
  mem_iff : ∀ {key : String} {entry : CacheEntry α},
    (key, entry) ∈ uses ↔ entries[key]? = some entry
  later : uses.Pairwise fun a b => b.2.lastUsed < a.2.lastUsed
  le_clock : ∀ use ∈ uses, use.2.lastUsed ≤ clock

theorem Orders.nodup_keys (h : Orders uses entries clock) : (uses.map Prod.fst).Nodup := by
  rw [List.Nodup, List.pairwise_map]
  refine h.later.imp_of_mem fun {a b} ha hb hlt heq => ?_
  -- two uses of one key would be one entry, which is not older than itself
  have hb' : (a.1, b.2) ∈ uses := by rw [heq]; exact hb
  have hentry : a.2 = b.2 := Option.some.inj ((h.mem_iff.1 ha).symm.trans (h.mem_iff.1 hb'))
  rw [hentry] at hlt
  omega

theorem Orders.perm (h : Orders uses entries clock) : uses.Perm entries.toList := by
  have huses : uses.Nodup := h.nodup_keys.of_map
  have hlist : entries.toList.Nodup :=
    Std.ExtTreeMap.distinct_keys_toList.imp fun hne heq => hne (by simp [heq])
  refine (List.perm_ext_iff_of_nodup huses hlist).2 fun ⟨key, entry⟩ => ?_
  rw [h.mem_iff, Std.ExtTreeMap.mem_toList_iff_getElem?_eq_some]

theorem Orders.length_eq (h : Orders uses entries clock) : uses.length = entries.size := by
  rw [h.perm.length_eq, Std.ExtTreeMap.length_toList]

theorem Orders.later_clock (h : Orders uses entries clock) : Orders uses entries (clock + 1) :=
  ⟨h.mem_iff, h.later, fun use hm => Nat.le_succ_of_le (h.le_clock use hm)⟩

/-- Whatever is used now was used last. -/
theorem Orders.insert (h : Orders uses entries clock) (key : String) (value : α) :
    Orders ((key, ⟨value, clock + 1⟩) :: uses.filter (·.1 != key))
      (entries.insert key ⟨value, clock + 1⟩) (clock + 1) := by
  refine ⟨fun {k entry} => ?_, ?_, ?_⟩
  · rw [Dict.getElem?_insert, List.mem_cons, List.mem_filter, h.mem_iff]
    by_cases hk : key = k
    · simp [hk, eq_comm]
    · simp [hk, Ne.symm hk]
  · -- the new time is ahead of the old clock, and no use is
    refine List.pairwise_cons.2 ⟨fun use hm => ?_, h.later.filter _⟩
    have hle := h.le_clock use (List.mem_filter.1 hm).1
    show use.2.lastUsed < clock + 1
    omega
  · intro use hm
    rcases List.mem_cons.1 hm with rfl | hm
    · exact Nat.le_refl _
    · have hle := h.le_clock use (List.mem_filter.1 hm).1
      omega

theorem Orders.erase (h : Orders uses entries clock) (key : String) :
    Orders (uses.filter (·.1 != key)) (entries.erase key) clock := by
  refine ⟨fun {k entry} => ?_, h.later.filter _, fun use hm => h.le_clock use (List.mem_filter.1 hm).1⟩
  rw [Dict.getElem?_erase, List.mem_filter, h.mem_iff]
  by_cases hk : key = k
  · simp [hk]
  · simp [hk, Ne.symm hk]

theorem Orders.filter_eq_self (h : Orders uses entries clock) {key : String}
    (hnew : entries[key]? = none) : uses.filter (·.1 != key) = uses := by
  refine List.filter_eq_self.2 fun use hm => ?_
  have hentry := h.mem_iff.1 hm
  have hne : use.1 ≠ key := fun heq => by
    rw [heq, hnew] at hentry
    cases hentry
  simpa using hne

/-- Taking the last key out leaves the others behind. -/
theorem Orders.filter_last {last : String × CacheEntry α}
    (h : Orders (init ++ [last]) entries clock) :
    (init ++ [last]).filter (·.1 != last.1) = init := by
  have hnodup := h.nodup_keys
  rw [List.map_append, List.nodup_append] at hnodup
  obtain ⟨-, -, hne⟩ := hnodup
  have hinit : init.filter (·.1 != last.1) = init := by
    refine List.filter_eq_self.2 fun use hm => ?_
    have hdiff : use.1 ≠ last.1 := hne _ (List.mem_map_of_mem hm) _ (by simp)
    simpa using hdiff
  rw [List.filter_append, hinit]
  simp

/-! ## The search for the oldest entry

The search folds over the entries and keeps the older one of two. Whatever the listing, it ends at an
entry that is not younger than any other; in a strict order of uses this is the last one. -/

theorem older_cases (a b : String × CacheEntry α) :
    (older a b = a ∧ a.2.lastUsed ≤ b.2.lastUsed) ∨
      (older a b = b ∧ b.2.lastUsed ≤ a.2.lastUsed) := by
  unfold older
  split
  · exact .inr ⟨rfl, by omega⟩
  · exact .inl ⟨rfl, by omega⟩

/-- A search finds one of the entries that it meets, and none of them is older. -/
theorem foldl_older_least (rest : List (String × CacheEntry α)) (first : String × CacheEntry α) :
    rest.foldl older first ∈ first :: rest ∧
      ∀ use ∈ first :: rest, (rest.foldl older first).2.lastUsed ≤ use.2.lastUsed := by
  -- the best entry so far changes in every step, so that it is general in the induction
  induction rest generalizing first with
  | nil => simp
  | cons second rest ih =>
    obtain ⟨hmem, hle⟩ := ih (older first second)
    rw [List.foldl_cons]
    have hbest := hle _ List.mem_cons_self
    refine ⟨?_, fun use hm => ?_⟩
    · rcases List.mem_cons.1 hmem with heq | hm
      · rcases older_cases first second with ⟨h, -⟩ | ⟨h, -⟩ <;> rw [heq, h] <;> simp
      · exact List.mem_cons_of_mem _ (List.mem_cons_of_mem _ hm)
    · -- an entry is the first one, the second one, or one of the rest; what was left behind on the way is
      -- no older
      rcases List.mem_cons.1 hm with rfl | hm
      · rcases older_cases use second with ⟨h, hl⟩ | ⟨h, hl⟩ <;> rw [h] at hbest hle ⊢ <;> omega
      · rcases List.mem_cons.1 hm with rfl | hm
        · rcases older_cases first use with ⟨h, hl⟩ | ⟨h, hl⟩ <;> rw [h] at hbest hle ⊢ <;> omega
        · exact hle use (List.mem_cons_of_mem _ hm)

/-- **In whatever order the entries are listed, the last one of the order of uses is found.** -/
theorem Orders.oldestAmong_eq {last : String × CacheEntry α}
    (h : Orders (init ++ [last]) entries clock) {listing : List (String × CacheEntry α)}
    (hl : listing.Perm entries.toList) : oldestAmong listing = some last.1 := by
  have hperm : listing.Perm (init ++ [last]) := hl.trans h.perm.symm
  cases listing with
  | nil => exact absurd hperm.length_eq (by simp)
  | cons first rest =>
    obtain ⟨hmem, hle⟩ := foldl_older_least rest first
    have hlast := hle last (hperm.mem_iff.2 (by simp))
    rcases List.mem_append.1 (hperm.mem_iff.1 hmem) with hinit | heq
    · -- what stands before the last one was used after it
      have hlt := (List.pairwise_append.1 h.later).2.2 _ hinit last (List.mem_singleton_self _)
      omega
    · rw [oldestAmong, List.mem_singleton.1 heq]

/-! ## The cache and the list

`Tracks` ties a cache to a list: the entries of the list are those of the cache in the order of their last
uses. Each operation keeps the tie and gives the same answer, by one lemma for each; the step and the run
put them together. -/

variable {capacity : Nat} {list : RecencyList α}

def valued (use : String × CacheEntry α) : String × α :=
  (use.1, use.2.value)

/-- The list holds the entries of the cache in the order of their last uses. -/
structure Tracks (capacity : Nat) (cache : Cache α) (list : RecencyList α) : Prop where
  cache_capacity : cache.capacity = capacity
  list_capacity : list.capacity = capacity
  capacity_pos : 0 < capacity
  length_le : list.entries.length ≤ capacity
  ordered : ∃ uses, Orders uses cache.entries cache.clock ∧ list.entries = uses.map valued

theorem Tracks.lookup_eq (h : Tracks capacity cache list) (key : String) :
    list.entries.lookup key = cache.entries[key]?.map (·.value) := by
  obtain ⟨uses, hord, hlist⟩ := h.ordered
  have hkeys : (list.entries.map Prod.fst).Nodup := by
    rw [hlist, List.map_map]
    exact hord.nodup_keys
  refine Option.ext fun value => ?_
  rw [Dict.lookup_eq_some_iff_mem hkeys, hlist, Option.map_eq_some_iff, List.mem_map]
  constructor
  · rintro ⟨⟨k, entry⟩, hm, heq⟩
    obtain ⟨rfl, rfl⟩ := Prod.mk.inj heq
    exact ⟨entry, hord.mem_iff.1 hm, rfl⟩
  · rintro ⟨entry, he, rfl⟩
    exact ⟨(key, entry), hord.mem_iff.2 he, rfl⟩

theorem Tracks.size_eq (h : Tracks capacity cache list) : cache.size = list.entries.length := by
  obtain ⟨uses, hord, hlist⟩ := h.ordered
  rw [hlist, List.length_map, hord.length_eq]
  rfl

theorem Tracks.contains_eq (h : Tracks capacity cache list) (key : String) :
    cache.contains key = (list.entries.lookup key).isSome := by
  rw [h.lookup_eq, Option.isSome_map]
  exact Std.ExtTreeMap.contains_eq_isSome_getElem?

theorem map_valued_filter (uses : List (String × CacheEntry α)) (key : String) :
    (uses.filter (·.1 != key)).map valued = (uses.map valued).filter (·.1 != key) := by
  rw [List.filter_map]
  rfl

theorem length_without_lt {value : α} {key : String} (h : list.entries.lookup key = some value) :
    (list.without key).length < list.entries.length := by
  obtain ⟨before, after, heq, -⟩ := List.lookup_eq_some_iff.1 h
  have hbefore := List.length_filter_le (fun pair : String × α => pair.1 != key) before
  have hafter := List.length_filter_le (fun pair : String × α => pair.1 != key) after
  rw [RecencyList.without, heq, List.filter_append, List.filter_cons_of_neg (by simp)]
  simp only [List.length_append, List.length_cons]
  omega

theorem Tracks.get (h : Tracks capacity cache list) (key : String) :
    (cache.get key).1 = (list.get key).1 ∧ Tracks capacity (cache.get key).2 (list.get key).2 := by
  have hlookup := h.lookup_eq key
  obtain ⟨uses, hord, hlist⟩ := h.ordered
  unfold Cache.get RecencyList.get
  cases hentry : cache.entries[key]? with
  | none =>
    rw [hentry, Option.map_none] at hlookup
    simp only [hlookup]
    -- a look-up in vain moves the clock and nothing else
    exact ⟨trivial, h.cache_capacity, h.list_capacity, h.capacity_pos, h.length_le, uses,
      hord.later_clock, hlist⟩
  | some entry =>
    rw [hentry, Option.map_some] at hlookup
    simp only [hlookup]
    have hlt := length_without_lt hlookup
    refine ⟨trivial, h.cache_capacity, h.list_capacity, h.capacity_pos, ?_, _,
      hord.insert key entry.value, ?_⟩
    · have hle := h.length_le
      simp only [List.length_cons]
      omega
    · rw [RecencyList.without, hlist, List.map_cons, map_valued_filter]
      rfl

theorem Tracks.remove (h : Tracks capacity cache list) (key : String) :
    (cache.remove key).1 = (list.remove key).1 ∧
      Tracks capacity (cache.remove key).2 (list.remove key).2 := by
  obtain ⟨uses, hord, hlist⟩ := h.ordered
  refine ⟨(h.lookup_eq key).symm, h.cache_capacity, h.list_capacity, h.capacity_pos, ?_, _,
    hord.erase key, ?_⟩
  · exact Nat.le_trans (List.length_filter_le _ _) h.length_le
  · rw [map_valued_filter, ← hlist]
    rfl

/-- When room is made, the cache and the list keep the same entries, however the entries are listed. -/
theorem Tracks.room (h : Tracks capacity cache list) {listing : List (String × CacheEntry α)}
    (hl : listing.Perm cache.entries.toList) (key : String) :
    (list.others key).length < capacity ∧
      ∃ uses, Orders uses (cache.makeRoomListed listing key) cache.clock ∧
        list.others key = (uses.filter (·.1 != key)).map valued := by
  have hle := h.length_le
  have hpos := h.capacity_pos
  have hcontains : cache.entries.contains key = (list.entries.lookup key).isSome :=
    h.contains_eq key
  have hsize : cache.entries.size = list.entries.length := h.size_eq
  obtain ⟨uses, hord, hlist⟩ := h.ordered
  unfold Cache.makeRoomListed RecencyList.others
  rw [hcontains, hsize, h.cache_capacity, h.list_capacity]
  by_cases hold : (list.entries.lookup key).isSome = true
  · -- the key is there, and its entry makes way for the new one
    obtain ⟨before, hbefore⟩ := Option.isSome_iff_exists.1 hold
    have hlt := length_without_lt hbefore
    rw [if_pos hold, if_pos (by simp [hold])]
    refine ⟨by omega, uses, hord, ?_⟩
    rw [RecencyList.without, hlist, map_valued_filter]
  have hnew : cache.entries[key]? = none := by
    have hlookup := h.lookup_eq key
    rw [Option.not_isSome_iff_eq_none.1 hold] at hlookup
    exact Option.map_eq_none_iff.1 hlookup.symm
  by_cases hroom : list.entries.length < capacity
  · rw [if_neg hold, if_pos hroom, if_pos (by simp [hroom])]
    refine ⟨hroom, uses, hord, ?_⟩
    rw [hord.filter_eq_self hnew, hlist]
  · -- the list is full, and so it has a last entry, which is the oldest one of the cache
    rw [if_neg hold, if_neg hroom, if_neg (by simp [hold, hroom])]
    obtain rfl | ⟨init, last, rfl⟩ := List.eq_nil_or_concat uses
    · rw [hlist] at hroom
      exact absurd hpos hroom
    rw [List.concat_eq_append] at hord hlist
    have hfound : oldestAmong listing = some last.1 := hord.oldestAmong_eq hl
    have hinit : Orders init (cache.entries.erase last.1) cache.clock := by
      have herase := hord.erase last.1
      rwa [hord.filter_last] at herase
    have hstill : (cache.entries.erase last.1)[key]? = none := by
      rw [Dict.getElem?_erase, hnew, ite_self]
    have hdrop : list.entries.dropLast = init.map valued := by
      rw [hlist, List.map_append, List.map_singleton, List.dropLast_concat]
    rw [hfound]
    refine ⟨?_, init, hinit, ?_⟩
    · rw [List.length_dropLast]
      omega
    · rw [hinit.filter_eq_self hstill, hdrop]

theorem Tracks.insertListed (h : Tracks capacity cache list) {listing : List (String × CacheEntry α)}
    (hl : listing.Perm cache.entries.toList) (key : String) (value : α) :
    Tracks capacity (cache.insertListed listing key value) (list.insert key value) := by
  obtain ⟨hlt, uses, hord, hothers⟩ := h.room hl key
  refine ⟨h.cache_capacity, h.list_capacity, h.capacity_pos, hlt, _, hord.insert key value, ?_⟩
  rw [RecencyList.insert, hothers]
  rfl

/-- The listing does not matter to what an insertion leaves behind. -/
theorem Tracks.insertListed_eq (h : Tracks capacity cache list) {listing : List (String × CacheEntry α)}
    (hl : listing.Perm cache.entries.toList) (key : String) (value : α) :
    cache.insertListed listing key value = cache.insert key value := by
  obtain ⟨uses, hord, -⟩ := h.ordered
  have hfound : oldestAmong listing = oldestAmong cache.entries.toList := by
    -- either listing leads to the last one in the order of uses, if there is any
    obtain rfl | ⟨init, last, rfl⟩ := List.eq_nil_or_concat uses
    · have hnil : cache.entries.toList = [] := hord.perm.symm.eq_nil
      rw [hnil] at hl ⊢
      rw [hl.eq_nil]
    · rw [List.concat_eq_append] at hord
      rw [hord.oldestAmong_eq hl, hord.oldestAmong_eq (List.Perm.refl _)]
  rw [← insertListed_toList, Cache.insertListed, Cache.insertListed, makeRoomListed, makeRoomListed,
    hfound]

/-- One call: the same answer, and nothing depends on a listing. -/
theorem Tracks.step (h : Tracks capacity cache list) (hs : Step cache call reply next) :
    cache.answer call = (reply, next) ∧ reply = (list.answer call).1 ∧
      Tracks capacity next (list.answer call).2 := by
  cases hs with
  | get key =>
    obtain ⟨hfound, hnext⟩ := h.get key
    exact ⟨rfl, congrArg CacheAnswer.found hfound, hnext⟩
  | insert key value hl =>
    rw [h.insertListed_eq hl]
    refine ⟨rfl, rfl, ?_⟩
    rw [← h.insertListed_eq hl]
    exact h.insertListed hl key value
  | remove key =>
    obtain ⟨hfound, hnext⟩ := h.remove key
    exact ⟨rfl, congrArg CacheAnswer.found hfound, hnext⟩
  | contains key => exact ⟨rfl, congrArg CacheAnswer.contained (h.contains_eq key), h⟩
  | size => exact ⟨rfl, congrArg CacheAnswer.counted h.size_eq, h⟩

theorem Tracks.run (h : Tracks capacity cache list) (hr : Run cache calls replies final) :
    cache.answerAll calls = (replies, final) ∧ replies = (list.answerAll calls).1 ∧
      Tracks capacity final (list.answerAll calls).2 := by
  -- along the run, with the list that follows the cache
  induction hr generalizing list with
  | nil cache => exact ⟨rfl, rfl, h⟩
  | cons hs _ ih =>
    obtain ⟨hcache, hanswer, hnext⟩ := h.step hs
    obtain ⟨hall, hanswers, hfinal⟩ := ih hnext
    refine ⟨?_, ?_, hfinal⟩
    · rw [answerAll, hcache, hall]
    · rw [RecencyList.answerAll, hanswer, hanswers]

theorem tracks_empty (h : 0 < capacity) :
    Tracks capacity (empty capacity : Cache α) ⟨capacity, []⟩ where
  cache_capacity := Nat.max_eq_left h
  list_capacity := rfl
  capacity_pos := h
  length_le := Nat.zero_le _
  ordered := ⟨[], ⟨by simp [empty], List.Pairwise.nil, by simp⟩, rfl⟩

/-- Each call takes at most one tick. -/
theorem clock_answerAll_le (cache : Cache α) (calls : List (CacheCall α)) :
    (cache.answerAll calls).2.clock ≤ cache.clock + calls.length := by
  induction calls generalizing cache with
  | nil => exact Nat.le_refl _
  | cons call calls ih =>
    have hone : (cache.answer call).2.clock ≤ cache.clock + 1 := by
      cases call with
      | get key =>
        show (cache.get key).2.clock ≤ _
        unfold Cache.get
        split <;> exact Nat.le_refl _
      | insert key value => exact Nat.le_refl _
      | remove key => exact Nat.le_succ _
      | contains key => exact Nat.le_succ _
      | size => exact Nat.le_succ _
    have hrest := ih (cache.answer call).2
    rw [List.length_cons]
    show ((cache.answer call).2.answerAll calls).2.clock ≤ _
    omega

/-- **A cache answers as a list from whose end it forgets.** The calls of a cache with room for at least
one entry have the answers of the list, and leave no more entries than there is room for. The order in
which entries are listed shows nowhere, neither in an answer nor in what is left. The clock counts the
calls at most, so that it stays below `2 ^ 64` when fewer are made. -/
theorem answers_eq_recency (h : 0 < capacity) (calls : List (CacheCall α)) :
    ((empty capacity : Cache α).answerAll calls).1 =
      ((⟨capacity, []⟩ : RecencyList α).answerAll calls).1 ∧
    ((empty capacity : Cache α).answerAll calls).2.size ≤ capacity ∧
    ((empty capacity : Cache α).answerAll calls).2.clock ≤ calls.length ∧
    ∀ (replies : List (CacheAnswer α)) (final : Cache α), Run (empty capacity) calls replies final ↔
      (empty capacity : Cache α).answerAll calls = (replies, final) := by
  have hempty : Tracks capacity (empty capacity : Cache α) ⟨capacity, []⟩ := tracks_empty h
  obtain ⟨-, hanswers, hfinal⟩ := hempty.run (run_answerAll (empty capacity) calls)
  have hclock := clock_answerAll_le (empty capacity : Cache α) calls
  -- every run is the run of the cache, which is one of them
  refine ⟨hanswers, ?_, ?_, fun replies final => ⟨fun hr => (hempty.run hr).1, fun heq => ?_⟩⟩
  · rw [hfinal.size_eq]
    exact hfinal.length_le
  · simpa [empty] using hclock
  · have hr := run_answerAll (empty capacity) calls
    rwa [heq] at hr

/-- With room for two, the third key drives the second one out, since the first one was asked for in the
meantime; whichever way the entries are listed. -/
theorem answers_eq_recency_of_two :
    let calls : List (CacheCall Nat) :=
      [.insert "a" 1, .insert "b" 2, .get "a", .insert "c" 3, .get "b", .insert "a" 4, .remove "c",
        .contains "c", .get "a", .size]
    let replies : List (CacheAnswer Nat) :=
      [.inserted, .inserted, .found (some 1), .inserted, .found none, .inserted, .found (some 3),
        .contained false, .found (some 4), .counted 1]
    0 < 2 ∧ ((empty 2 : Cache Nat).answerAll calls).2.size ≤ 2 ∧
      ∀ given final, Run (empty 2 : Cache Nat) calls given final → given = replies := by
  intro calls replies
  have htwo : 0 < 2 := by decide
  obtain ⟨hanswers, hsize, -, hruns⟩ := answers_eq_recency htwo calls
  have hreplies : ((⟨2, []⟩ : RecencyList Nat).answerAll calls).1 = replies := by decide
  refine ⟨htwo, hsize, fun given final hr => ?_⟩
  rw [(hruns given final).1 hr] at hanswers
  exact hanswers.trans hreplies

end Cache

end ClusterGraph
