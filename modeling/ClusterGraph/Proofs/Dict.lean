import Mathlib.Data.List.Dedup
import Mathlib.Data.List.Induction
import Mathlib.Data.List.Nodup
import ClusterGraph.Dict

/-!
# Dictionaries of entries

A dictionary that is built from entries has their keys (`mem_ofEntries`), each with the last value that
was given for it (`getElem?_ofEntries_last`). When no key comes twice, it holds exactly these entries
(`getElem?_ofEntries`) and as many of them (`size_ofEntries`), and so does the list itself
(`lookup_eq_some_iff_mem`).
-/

namespace ClusterGraph.Dict

variable {α : Type} {entries : List (String × α)}

theorem getElem?_erase (dict : Dict α) (key k : String) :
    (dict.erase key)[k]? = if key = k then none else dict[k]? := by
  simp [Std.ExtTreeMap.getElem?_erase]

/-- In a list of entries without a key twice, what is looked up is there. -/
theorem lookup_eq_some_iff_mem {κ : Type} [BEq κ] [LawfulBEq κ] {pairs : List (κ × α)}
    (h : (pairs.map Prod.fst).Nodup) {key : κ} {value : α} :
    pairs.lookup key = some value ↔ (key, value) ∈ pairs := by
  induction pairs with
  | nil => simp
  | cons pair pairs ih =>
    obtain ⟨k, v⟩ := pair
    rw [List.map_cons, List.nodup_cons] at h
    rw [List.lookup_cons, List.mem_cons, Prod.mk.injEq]
    by_cases hk : key = k
    · -- the head is the only entry for its key
      have hnew : (k, value) ∉ pairs := fun hm => h.1 (List.mem_map.2 ⟨_, hm, rfl⟩)
      simp [hk, hnew, eq_comm]
    · have hbeq : (key == k) = false := by simpa using hk
      simp [hk, hbeq, ih h.2]

theorem ofEntries_append_singleton (entries : List (String × α)) (key : String) (value : α) :
    ofEntries (entries ++ [(key, value)]) = (ofEntries entries).insert key value := by
  simp [ofEntries]

theorem mem_ofEntries {key : String} : key ∈ ofEntries entries ↔ key ∈ entries.map Prod.fst := by
  -- entries are inserted from the left, so that the last one is the outermost insertion
  induction entries using List.reverseRecOn with
  | nil => simp [ofEntries]
  | append_singleton entries entry ih =>
    obtain ⟨k, value⟩ := entry
    rw [ofEntries_append_singleton]
    simp only [Std.ExtTreeMap.mem_insert, Std.LawfulEqCmp.compare_eq_iff_eq, ih, List.map_append,
      List.map_cons, List.map_nil, List.mem_append, List.mem_singleton]
    rw [or_comm, eq_comm]

theorem getElem?_ofEntries (h : (entries.map Prod.fst).Nodup) {key : String} {value : α} :
    (ofEntries entries)[key]? = some value ↔ (key, value) ∈ entries := by
  induction entries using List.reverseRecOn with
  | nil => simp [ofEntries]
  | append_singleton entries entry ih =>
    obtain ⟨k, v⟩ := entry
    rw [List.map_append] at h
    obtain ⟨hn, -, hd⟩ := List.nodup_append.1 h
    rw [ofEntries_append_singleton, getElem?_insert, List.mem_append, List.mem_singleton]
    by_cases hk : k = key
    · -- the entry that comes last is the first one for its key
      subst hk
      have hnew : (k, value) ∉ entries := fun hm =>
        hd k (List.mem_map.2 ⟨_, hm, rfl⟩) k (by simp) rfl
      simp [hnew, eq_comm]
    · rw [if_neg hk, ih hn]
      have hne : ¬ (key, value) = (k, v) := fun heq => hk (congrArg Prod.fst heq).symm
      simp [hne]

/-- Of several values for one key the last one stays. -/
theorem getElem?_ofEntries_last (entries : List (String × α)) (key : String) :
    (ofEntries entries)[key]? = (entries.reverse.find? (·.1 == key)).map (·.2) := by
  induction entries using List.reverseRecOn with
  | nil => simp [ofEntries]
  | append_singleton entries entry ih =>
    obtain ⟨k, value⟩ := entry
    rw [ofEntries_append_singleton, getElem?_insert, List.reverse_append, List.reverse_singleton,
      List.singleton_append, List.find?_cons]
    by_cases hk : k = key
    · -- the search from the end stops at the entry that was inserted last
      simp [hk]
    · have hbeq : (k == key) = false := by simpa using hk
      rw [if_neg hk, ih, hbeq]

/-- There are as many entries as there are different keys. -/
theorem size_ofEntries_dedup (entries : List (String × α)) :
    (ofEntries entries).size = (entries.map Prod.fst).dedup.length := by
  rw [← Std.ExtTreeMap.length_keys]
  -- two lists without repetition that have the same keys
  refine List.Perm.length_eq ?_
  refine (List.perm_ext_iff_of_nodup Std.ExtTreeMap.nodup_keys (List.nodup_dedup _)).2 fun key => ?_
  rw [Std.ExtTreeMap.mem_keys, mem_ofEntries, List.mem_dedup]

theorem size_ofEntries (h : (entries.map Prod.fst).Nodup) :
    (ofEntries entries).size = entries.length := by
  rw [size_ofEntries_dedup, h.dedup, List.length_map]

end ClusterGraph.Dict
