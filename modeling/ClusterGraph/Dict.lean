import Std.Data.ExtTreeMap
import Std.Data.ExtTreeSet

/-!
Dictionaries and sets with texts as keys.

Both list what they hold in ascending order of the keys, compared character by character, and two of
them are equal as soon as they hold the same: what was put in first leaves no trace.
-/

namespace ClusterGraph

/-- A dictionary with texts as keys. -/
abbrev Dict (α : Type) := Std.ExtTreeMap String α

/-- A set of texts. -/
abbrev Keys := Std.ExtTreeSet String

namespace Dict

/-- The dictionary with the given entries; of equal keys the last value stays. -/
def ofEntries {α : Type} (entries : List (String × α)) : Dict α :=
  entries.foldl (fun dict (key, value) => dict.insert key value) ∅

/-- The dictionary in which a key that was absent has the given value. -/
def insertAbsent {α : Type} (dict : Dict α) (key : String) (value : α) : Dict α :=
  if dict.contains key then dict else dict.insert key value

theorem mem_iff_exists {α : Type} {dict : Dict α} {key : String} :
    key ∈ dict ↔ ∃ value, dict[key]? = some value := by
  rw [Std.ExtTreeMap.mem_iff_isSome_getElem?, Option.isSome_iff_exists]

theorem getElem?_insert {α : Type} (dict : Dict α) (key k : String) (value : α) :
    (dict.insert key value)[k]? = if key = k then some value else dict[k]? := by
  simp [Std.ExtTreeMap.getElem?_insert]

/-- A value that was there stays. -/
theorem getElem?_insertAbsent {α : Type} (dict : Dict α) (key k : String) (value : α) :
    (dict.insertAbsent key value)[k]? = dict[k]?.or (if key = k then some value else none) := by
  unfold insertAbsent
  by_cases hk : key = k
  · subst hk
    by_cases hc : key ∈ dict <;> simp [hc]
  · by_cases hc : key ∈ dict <;> simp [hc, hk, getElem?_insert]

end Dict

end ClusterGraph
