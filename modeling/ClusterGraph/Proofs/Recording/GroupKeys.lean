import Mathlib.Data.List.Dedup
import Mathlib.Data.List.Induction
import Mathlib.Data.List.Perm.Basic
import ClusterGraph.Graph.Recording

/-!
# The groups of a recording

Group keys are ordered by their parts, the earlier ones first. The keys of all groups come out in this
order, each once (`nodup_groupKeys`), and `length_groupKeys` counts them.
-/

namespace ClusterGraph

namespace PodGroupKey

instance : Std.TransCmp PodGroupKey.compare :=
  inferInstanceAs (Std.TransCmp (compareLex (compareOn namespaceName)
    (compareLex (compareOn ownerApiVersion) (compareLex (compareOn ownerKind)
      (compareOn ownerName)))))

instance : Std.LawfulEqCmp PodGroupKey.compare where
  eq_of_compare {a b} h := by
    simp only [PodGroupKey.compare, Ordering.then_eq_eq, Std.LawfulEqCmp.compare_eq_iff_eq] at h
    obtain ⟨hn, hv, hk, hw⟩ := h
    cases a
    cases b
    simp_all

end PodGroupKey

namespace Recording

/-! ## Keys in order

Keys are put into a list one by one, each before the first one that is greater. The list stays ascending
in the order of the four parts, and being ascending keeps every key from being there twice. -/

def Ascending (keys : List PodGroupKey) : Prop :=
  keys.Pairwise fun a b => a.compare b = .lt

theorem mem_insertKey {key k : PodGroupKey} {keys : List PodGroupKey} :
    k ∈ insertKey key keys ↔ k = key ∨ k ∈ keys := by
  induction keys with
  | nil => simp [insertKey]
  | cons first rest ih =>
    unfold insertKey
    split
    · rename_i heq
      subst heq
      simp
    · split
      · simp
      · simp [ih, or_left_comm]

theorem Ascending.insertKey {keys : List PodGroupKey} (h : Ascending keys) (key : PodGroupKey) :
    Ascending (insertKey key keys) := by
  -- induction on the list: the key is there, or belongs before the first one, or goes into the rest
  induction keys with
  | nil => simp [Recording.insertKey, Ascending]
  | cons first rest ih =>
    obtain ⟨hfirst, hrest⟩ := List.pairwise_cons.1 h
    unfold Recording.insertKey
    split
    · exact h
    · rename_i hne
      split
      · rename_i hlt
        have hlt : key.compare first = .lt := by simpa using hlt
        refine List.pairwise_cons.2 ⟨fun k hk => ?_, h⟩
        rcases List.mem_cons.1 hk with rfl | hk
        · exact hlt
        · exact Std.TransCmp.lt_trans hlt (hfirst k hk)
      · rename_i hlt
        -- the key is neither the first one nor before it, so it comes later
        have hgt : first.compare key = .lt := by
          cases hc : key.compare first with
          | lt => simp [hc] at hlt
          | eq => exact absurd (Std.LawfulEqCmp.eq_of_compare hc) hne
          | gt => exact Std.OrientedCmp.gt_iff_lt.1 hc
        refine List.pairwise_cons.2 ⟨fun k hk => ?_, ih hrest⟩
        rcases mem_insertKey.1 hk with rfl | hk
        · exact hgt
        · exact hfirst k hk

theorem Ascending.nodup {keys : List PodGroupKey} (h : Ascending keys) : keys.Nodup := by
  refine h.imp fun {a b} hlt heq => ?_
  subst heq
  have heq : a.compare a = .eq := Std.ReflCmp.compare_self
  rw [heq] at hlt
  cases hlt

variable {grouping : Bool} {recording : Recording}

/-! ## The keys of the groups that are shown

`groupKeys` is the insertion of all keys of processed pods. What it contains and that it does so once are
proved of the fold together, since each step needs the list to be ascending. -/

/-- The group keys of the processed objects, one for each grouped pod. -/
def shownKeys (recording : Recording) (grouping : Bool) : List PodGroupKey :=
  recording.processedObjects.filterMap fun (_, object) => object.groupKey? grouping

theorem foldl_insertKey (keys : List PodGroupKey) :
    Ascending (keys.foldl (fun acc key => insertKey key acc) []) ∧
      ∀ k, k ∈ keys.foldl (fun acc key => insertKey key acc) [] ↔ k ∈ keys := by
  induction keys using List.reverseRecOn with
  | nil => simp [Ascending]
  | append_singleton keys key ih =>
    rw [List.foldl_append]
    refine ⟨ih.1.insertKey key, fun k => ?_⟩
    rw [List.foldl_cons, List.foldl_nil, mem_insertKey, ih.2 k, List.mem_append,
      List.mem_singleton, or_comm]

theorem mem_groupKeys {key : PodGroupKey} :
    key ∈ recording.groupKeys grouping ↔ key ∈ recording.shownKeys grouping :=
  (foldl_insertKey (recording.shownKeys grouping)).2 key

theorem nodup_groupKeys : (recording.groupKeys grouping).Nodup :=
  (foldl_insertKey (recording.shownKeys grouping)).1.nodup

theorem length_groupKeys :
    (recording.groupKeys grouping).length = (recording.shownKeys grouping).dedup.length := by
  -- both lists have the same members without repetition, if not in the same order
  refine List.Perm.length_eq ?_
  refine (List.perm_ext_iff_of_nodup nodup_groupKeys (List.nodup_dedup _)).2 fun key => ?_
  rw [mem_groupKeys, List.mem_dedup]

end Recording

end ClusterGraph
