import ClusterGraph.Dict

/-!
A bounded cache that forgets what was used least recently.

Every look-up and every insertion advances a clock, also a look-up that finds nothing. An entry
remembers the time of its last use. When a new key enters a full cache, the entry that has been unused
for the longest time leaves it.
-/

namespace ClusterGraph

/-- A value and the time of its last use. -/
structure CacheEntry (α : Type) where
  value : α
  lastUsed : Nat
  deriving Inhabited

/-- A cache for at most `capacity` entries. -/
structure Cache (α : Type) where
  capacity : Nat
  clock : Nat := 0
  entries : Dict (CacheEntry α) := ∅
  deriving Inhabited

namespace Cache

variable {α : Type}

/-- An empty cache; one without room holds a single entry all the same. -/
def empty (capacity : Nat) : Cache α :=
  { capacity := max capacity 1 }

/-- The number of entries. -/
def size (cache : Cache α) : Nat :=
  cache.entries.size

/-- Whether a key has a value. -/
def contains (cache : Cache α) (key : String) : Bool :=
  cache.entries.contains key

/-- The value of a key, which counts as a use. -/
def get (cache : Cache α) (key : String) : Option α × Cache α :=
  let clock := cache.clock + 1
  match cache.entries[key]? with
  | none => (none, { cache with clock })
  | some entry =>
    (some entry.value,
      { cache with clock, entries := cache.entries.insert key { entry with lastUsed := clock } })

/-- The entry that has been unused longer than another one. -/
def older (a b : String × CacheEntry α) : String × CacheEntry α :=
  if b.2.lastUsed < a.2.lastUsed then b else a

/-- The key that has been unused for the longest time. -/
def oldest? (cache : Cache α) : Option String :=
  match cache.entries.toList with
  | [] => none
  | first :: rest => some (rest.foldl older first).1

/-- The entries after room was made for a key. -/
def makeRoom (cache : Cache α) (key : String) : Dict (CacheEntry α) :=
  if cache.entries.contains key || cache.entries.size < cache.capacity then cache.entries
  else
    match cache.oldest? with
    | none => cache.entries
    | some oldest => cache.entries.erase oldest

/-- Puts a value under a key, which counts as a use. -/
def insert (cache : Cache α) (key : String) (value : α) : Cache α :=
  let clock := cache.clock + 1
  { cache with clock, entries := (cache.makeRoom key).insert key ⟨value, clock⟩ }

/-- Takes a key out, with its value. -/
def remove (cache : Cache α) (key : String) : Option α × Cache α :=
  ((cache.entries[key]?).map (·.value), { cache with entries := cache.entries.erase key })

end Cache

end ClusterGraph
