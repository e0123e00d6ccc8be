import Mathlib.Data.List.Induction
import Mathlib.Data.List.Nodup
import Mathlib.Data.List.Sort
import Mathlib.Data.String.Basic
import ClusterGraph.Graph.Dedup

/-!
# One edge for each pair of nodes

* **`edgesBetween_dedup`** — between two different nodes there is exactly one edge afterwards if there
  was one in either direction before, and none otherwise.
* **`mem_targets_of_dedup`** — each edge that is left was there before, in the same direction.
* **`mem_targets_dedup_iff`** — of two edges in opposite directions the one from the smaller source is
  left.
* **`ne_nil_of_dedup`** — no source is left without targets.
* **`canonical_dedup`** — the targets of each source ascend, so that what is left has one form only.
* **`dedup_leaves_one`** — all of this together: which edges are left, in which form, and that neither
  another run nor another listing of the same edges makes a difference.

The pairs that are kept are described by `Kept`, which every step of the walk over all pairs preserves.
What `ofPairs` makes of the kept pairs is counted: `count_targets_ofPairs` says that a target stands in
the list of a source as often as the pair of the two was kept.
-/

namespace ClusterGraph.AdjacencyList

def targets (edges : AdjacencyList) (source : String) : List String :=
  edges[source]?.getD []

/-- The number of edges between two nodes, in either direction. -/
def edgesBetween (edges : AdjacencyList) (u v : String) : Nat :=
  (edges.targets u).count v + (edges.targets v).count u

theorem edgesBetween_eq_one_iff {edges : AdjacencyList} {u v : String} :
    edges.edgesBetween u v = 1 ↔
      (edges.targets u).count v = 1 ∧ u ∉ edges.targets v ∨
        (edges.targets v).count u = 1 ∧ v ∉ edges.targets u := by
  unfold edgesBetween
  rw [← List.count_eq_zero, ← List.count_eq_zero]
  omega

theorem mem_pairs {edges : AdjacencyList} {u v : String} :
    (u, v) ∈ edges.pairs ↔ v ∈ edges.targets u := by
  unfold pairs targets
  rw [List.mem_flatMap]
  -- a pair comes from the entry of its source
  constructor
  · rintro ⟨⟨source, list⟩, hm, hv⟩
    rw [Std.ExtTreeMap.mem_toList_iff_getElem?_eq_some] at hm
    obtain ⟨target, ht, heq⟩ := List.mem_map.1 hv
    cases heq
    rw [hm]
    exact ht
  · intro hv
    cases hu : edges[u]? with
    | none => rw [hu] at hv; simp at hv
    | some list =>
      rw [hu] at hv
      exact ⟨(u, list), Std.ExtTreeMap.mem_toList_iff_getElem?_eq_some.2 hu,
        List.mem_map.2 ⟨v, hv, rfl⟩⟩

/-! ## The pairs that are kept

The walk keeps a pair if neither it nor its reverse was kept before. `Kept` says of the pairs walked so
far what this comes to; one more pair preserves it, and so it holds of the whole walk whatever the order
of the pairs. -/

/-- The kept ones among some pairs: each pair of different nodes that occurs, in one direction, once. -/
structure Kept (pairs kept : List (String × String)) : Prop where
  mem : ∀ {pair : String × String}, pair ∈ kept → pair ∈ pairs
  loopless : ∀ {u v : String}, (u, v) ∈ kept → u ≠ v
  oneWay : ∀ {u v : String}, (u, v) ∈ kept → (v, u) ∉ kept
  nodup : kept.Nodup
  covers : ∀ {u v : String}, (u, v) ∈ pairs → u ≠ v → (u, v) ∈ kept ∨ (v, u) ∈ kept

theorem isNew_iff {kept : List (String × String)} {u v : String} :
    isNew kept (u, v) = true ↔ u ≠ v ∧ (u, v) ∉ kept ∧ (v, u) ∉ kept := by
  simp [isNew, and_assoc]

/-- One more pair is kept exactly if it is new. -/
theorem Kept.keepNew {pairs kept : List (String × String)} (h : Kept pairs kept)
    (pair : String × String) : Kept (pairs ++ [pair]) (keepNew kept pair) := by
  obtain ⟨s, t⟩ := pair
  unfold AdjacencyList.keepNew
  by_cases hnew : isNew kept (s, t) = true
  · obtain ⟨hst, hs, ht⟩ := isNew_iff.1 hnew
    rw [if_pos hnew]
    refine ⟨?_, ?_, ?_, ?_, ?_⟩
    · intro pair hm
      rcases List.mem_append.1 hm with hm | hm
      · exact List.mem_append_left _ (h.mem hm)
      · exact List.mem_append_right _ hm
    · intro u v hm
      rcases List.mem_append.1 hm with hm | hm
      · exact h.loopless hm
      · cases List.mem_singleton.1 hm
        exact hst
    · -- the new pair meets neither itself nor its reverse among the kept ones
      intro u v hm hr
      rcases List.mem_append.1 hm with hm | hm <;> rcases List.mem_append.1 hr with hr | hr
      · exact h.oneWay hm hr
      · cases List.mem_singleton.1 hr
        exact ht hm
      · cases List.mem_singleton.1 hm
        exact ht hr
      · cases List.mem_singleton.1 hm
        cases List.mem_singleton.1 hr
        exact hst rfl
    · refine List.nodup_append.2 ⟨h.nodup, List.nodup_singleton _, fun a ha b hb heq => ?_⟩
      rw [List.mem_singleton.1 hb] at heq
      exact hs (heq ▸ ha)
    · intro u v hm huv
      rcases List.mem_append.1 hm with hm | hm
      · exact (h.covers hm huv).imp (List.mem_append_left _) (List.mem_append_left _)
      · exact Or.inl (List.mem_append_right _ hm)
  · rw [if_neg hnew]
    refine ⟨fun hm => List.mem_append_left _ (h.mem hm), h.loopless, h.oneWay, h.nodup, ?_⟩
    intro u v hm huv
    rcases List.mem_append.1 hm with hm | hm
    · exact h.covers hm huv
    · -- a pair that is not new, and no loop, was met before in one of the directions
      cases List.mem_singleton.1 hm
      by_contra hno
      rw [not_or] at hno
      exact hnew (isNew_iff.2 ⟨huv, hno⟩)

/-- The walk over all pairs keeps each pair of nodes once. -/
theorem kept_foldl (pairs : List (String × String)) : Kept pairs (pairs.foldl keepNew []) := by
  induction pairs using List.reverseRecOn with
  | nil => exact ⟨fun h => h, by simp, by simp, List.nodup_nil, by simp⟩
  | append_singleton pairs pair ih =>
    rw [List.foldl_append]
    exact ih.keepNew pair

/-! ## The direction that is kept

Here the order counts. Pairs are walked with ascending sources, and so of a pair and its reverse the one
with the smaller source is met first. -/

theorem pairwise_pairs (edges : AdjacencyList) : edges.pairs.Pairwise fun a b => a.1 ≤ b.1 := by
  unfold pairs
  rw [List.pairwise_flatMap]
  -- within one entry all sources are the same, and the entries ascend
  constructor
  · rintro ⟨source, list⟩ _
    exact List.pairwise_map.2 (List.pairwise_of_forall fun _ _ => le_refl source)
  · have hsorted := Std.ExtTreeMap.ordered_keys_toList (t := edges)
    refine hsorted.imp fun {a b} hlt x hx y hy => ?_
    obtain ⟨_, _, rfl⟩ := List.mem_map.1 hx
    obtain ⟨_, _, rfl⟩ := List.mem_map.1 hy
    exact (compareOfLessAndEq_eq_lt.1 hlt).le

/-- Sources are walked in ascending order, so that a pair is kept against its reverse only from the
smaller source. -/
theorem lt_of_kept {pairs : List (String × String)} (hs : pairs.Pairwise fun a b => a.1 ≤ b.1)
    {u v : String} (h : (u, v) ∈ pairs.foldl keepNew []) (hr : (v, u) ∈ pairs) : u < v := by
  -- by the pair that is walked last: it may be the one that is kept, or its reverse
  induction pairs using List.reverseRecOn with
  | nil => cases hr
  | append_singleton pairs pair ih =>
    obtain ⟨s, t⟩ := pair
    have hkept : Kept pairs (pairs.foldl keepNew []) := kept_foldl pairs
    obtain ⟨hs, -, hlast⟩ := List.pairwise_append.1 hs
    have hle : ∀ {x y : String}, (x, y) ∈ pairs → x ≤ s := fun hm => hlast _ hm (s, t) (by simp)
    rw [List.foldl_append, List.foldl_cons, List.foldl_nil, AdjacencyList.keepNew] at h
    -- the pair was kept before, or it is the last one and new
    have hcases : (u, v) ∈ pairs.foldl keepNew [] ∨
        isNew (pairs.foldl keepNew []) (s, t) = true ∧ (u, v) = (s, t) := by
      by_cases hnew : isNew (pairs.foldl keepNew []) (s, t) = true
      · rw [if_pos hnew, List.mem_append, List.mem_singleton] at h
        exact h.imp_right fun heq => ⟨hnew, heq⟩
      · rw [if_neg hnew] at h
        exact Or.inl h
    rcases hcases with hold | ⟨hnew, heq⟩
    · rcases List.mem_append.1 hr with hr | hr
      · exact ih hs hold hr
      · -- the reverse comes last, so that its source is not the smaller one
        cases List.mem_singleton.1 hr
        have huv : u ≤ v := hle (hkept.mem hold)
        exact lt_of_le_of_ne huv (hkept.loopless hold)
    · -- a pair whose reverse was met before is not new
      cases heq
      obtain ⟨huv, hnot, hnotr⟩ := isNew_iff.1 hnew
      rcases List.mem_append.1 hr with hr | hr
      · rcases hkept.covers hr huv.symm with hk | hk
        · exact absurd hk hnotr
        · exact absurd hk hnot
      · cases List.mem_singleton.1 hr
        exact absurd rfl huv

/-! ## From pairs to lists of targets

The kept pairs are put into lists again, each target at its place in the list of its source. An insertion
adds one copy of the target, so that the copies are counted as the pairs are. -/

theorem count_insertTarget (target v : String) (list : List String) :
    (insertTarget target list).count v = (target :: list).count v := by
  induction list with
  | nil => rfl
  | cons t rest ih =>
    unfold insertTarget
    split
    · rfl
    · simp only [List.count_cons] at ih ⊢
      omega

theorem insertTarget_ne_nil (target : String) (list : List String) :
    insertTarget target list ≠ [] := by
  cases list with
  | nil => simp [insertTarget]
  | cons t rest => unfold insertTarget; split <;> simp

theorem ofPairs_append_singleton (pairs : List (String × String)) (source target : String) :
    ofPairs (pairs ++ [(source, target)]) =
      (ofPairs pairs).insert source (insertTarget target ((ofPairs pairs).targets source)) := by
  simp [ofPairs, targets]

/-- A target is listed under a source as often as the two occur as a pair. -/
theorem count_targets_ofPairs (pairs : List (String × String)) (u v : String) :
    ((ofPairs pairs).targets u).count v = pairs.count (u, v) := by
  induction pairs using List.reverseRecOn with
  | nil => simp [ofPairs, targets]
  | append_singleton pairs pair ih =>
    obtain ⟨source, target⟩ := pair
    rw [ofPairs_append_singleton, targets, Dict.getElem?_insert, List.count_append,
      List.count_singleton]
    -- the last pair adds to the list of its own source and to no other
    by_cases hs : source = u
    · subst hs
      rw [if_pos rfl, Option.getD_some, count_insertTarget, List.count_cons, ih]
      simp
    · rw [if_neg hs]
      have hne : ((source, target) == (u, v)) = false := by simp [hs]
      rw [hne]
      simpa [targets] using ih

theorem ne_nil_of_ofPairs {pairs : List (String × String)} {source : String} {list : List String}
    (h : (ofPairs pairs)[source]? = some list) : list ≠ [] := by
  induction pairs using List.reverseRecOn with
  | nil => simp [ofPairs] at h
  | append_singleton pairs pair ih =>
    rw [ofPairs_append_singleton, Dict.getElem?_insert] at h
    split at h
    · cases h
      exact insertTarget_ne_nil _ _
    · exact ih h

/-! ## The edges that are left

What is kept of the pairs is carried over to the lists. Both main lemmas are read off `Kept`: membership
with the direction, and the number of edges between two nodes. -/

theorem ne_nil_of_dedup {edges : AdjacencyList} {source : String} {list : List String}
    (h : edges.dedup[source]? = some list) : list ≠ [] :=
  ne_nil_of_ofPairs h

theorem mem_targets_dedup {edges : AdjacencyList} {u v : String} :
    v ∈ edges.dedup.targets u ↔ (u, v) ∈ edges.pairs.foldl keepNew [] := by
  unfold dedup
  rw [← List.count_pos_iff, count_targets_ofPairs, List.count_pos_iff]

theorem mem_targets_of_dedup {edges : AdjacencyList} {u v : String}
    (h : v ∈ edges.dedup.targets u) : v ∈ edges.targets u :=
  mem_pairs.1 ((kept_foldl edges.pairs).mem (mem_targets_dedup.1 h))

/-- **Of two edges in opposite directions the one from the smaller source is left.** -/
theorem mem_targets_dedup_iff {edges : AdjacencyList} {u v : String} :
    v ∈ edges.dedup.targets u ↔
      v ∈ edges.targets u ∧ u ≠ v ∧ (u < v ∨ u ∉ edges.targets v) := by
  have hkept := kept_foldl edges.pairs
  rw [mem_targets_dedup, ← mem_pairs, ← mem_pairs]
  constructor
  · intro h
    refine ⟨hkept.mem h, hkept.loopless h, ?_⟩
    by_cases hr : (v, u) ∈ edges.pairs
    · exact Or.inl (lt_of_kept (pairwise_pairs edges) h hr)
    · exact Or.inr hr
  · rintro ⟨hm, huv, hfirst⟩
    rcases hkept.covers hm huv with h | h
    · exact h
    · -- the reverse was kept, so that its source is the smaller one
      have hlt : v < u := lt_of_kept (pairwise_pairs edges) h hm
      rcases hfirst with hfirst | hfirst
      · exact absurd hlt hfirst.asymm
      · exact absurd (hkept.mem h) hfirst

/-- **One edge for each pair of nodes that an edge connects.** -/
theorem edgesBetween_dedup (edges : AdjacencyList) {u v : String} (huv : u ≠ v) :
    edges.dedup.edgesBetween u v = if v ∈ edges.targets u ∨ u ∈ edges.targets v then 1 else 0 := by
  have hkept := kept_foldl edges.pairs
  unfold edgesBetween dedup
  rw [count_targets_ofPairs, count_targets_ofPairs]
  generalize edges.pairs.foldl keepNew [] = kept at hkept ⊢
  by_cases hjoined : v ∈ edges.targets u ∨ u ∈ edges.targets v
  · rw [if_pos hjoined]
    have hmem : (u, v) ∈ kept ∨ (v, u) ∈ kept := by
      rcases hjoined with h | h
      · exact hkept.covers (mem_pairs.2 h) huv
      · exact (hkept.covers (mem_pairs.2 h) huv.symm).symm
    -- one direction was kept, once, and then the other was not
    rcases hmem with h | h
    · rw [List.count_eq_one_of_mem hkept.nodup h, List.count_eq_zero_of_not_mem (hkept.oneWay h)]
    · rw [List.count_eq_one_of_mem hkept.nodup h, List.count_eq_zero_of_not_mem (hkept.oneWay h)]
  · rw [if_neg hjoined]
    rw [not_or] at hjoined
    rw [List.count_eq_zero_of_not_mem fun h => hjoined.1 (mem_pairs.1 (hkept.mem h)),
      List.count_eq_zero_of_not_mem fun h => hjoined.2 (mem_pairs.1 (hkept.mem h))]

/-! ## The order of the targets

A target is put before the first one that is larger than it. That keeps an ascending list ascending, and
every list starts empty. -/

theorem mem_insertTarget {target v : String} {list : List String} :
    v ∈ insertTarget target list ↔ v = target ∨ v ∈ list := by
  rw [← List.count_pos_iff, count_insertTarget, List.count_pos_iff, List.mem_cons]

theorem pairwise_insertTarget (target : String) {list : List String} (h : list.Pairwise (· ≤ ·)) :
    (insertTarget target list).Pairwise (· ≤ ·) := by
  induction list with
  | nil => exact List.pairwise_singleton _ target
  | cons t rest ih =>
    obtain ⟨hfirst, hrest⟩ := List.pairwise_cons.1 h
    unfold insertTarget
    split
    · next hlt =>
      refine List.pairwise_cons.2 ⟨fun v hv => ?_, h⟩
      rcases List.mem_cons.1 hv with rfl | hv
      · exact hlt.le
      · exact hlt.le.trans (hfirst v hv)
    · next hlt =>
      refine List.pairwise_cons.2 ⟨fun v hv => ?_, ih hrest⟩
      rcases mem_insertTarget.1 hv with rfl | hv
      · exact not_lt.1 hlt
      · exact hfirst v hv

theorem pairwise_targets_ofPairs (pairs : List (String × String)) (u : String) :
    ((ofPairs pairs).targets u).Pairwise (· ≤ ·) := by
  induction pairs using List.reverseRecOn with
  | nil => simp [ofPairs, targets]
  | append_singleton pairs pair ih =>
    obtain ⟨source, target⟩ := pair
    rw [ofPairs_append_singleton, targets, Dict.getElem?_insert]
    split
    · next hs =>
      subst hs
      exact pairwise_insertTarget target ih
    · exact ih

/-! ## One form for each graph

Ascending lists of targets without repetition are determined by what is in them. A result is therefore
determined by its edges, and two results are compared edge by edge: that another run changes nothing, and
that the listing of the edges does not matter. -/

/-- Each target stands once, in ascending order, and there is no source without targets. -/
structure Canonical (edges : AdjacencyList) : Prop where
  ascending : ∀ {source : String} {list : List String},
    edges[source]? = some list → list.Pairwise (· < ·)
  ne_nil : ∀ {source : String} {list : List String}, edges[source]? = some list → list ≠ []

namespace Canonical

variable {edges other : AdjacencyList}

theorem pairwise_targets (h : edges.Canonical) (u : String) : (edges.targets u).Pairwise (· < ·) := by
  unfold targets
  cases hu : edges[u]? with
  | none => exact List.Pairwise.nil
  | some list => exact h.ascending hu

theorem getElem?_eq (h : edges.Canonical) (u : String) :
    edges[u]? = if edges.targets u = [] then none else some (edges.targets u) := by
  unfold targets
  cases hu : edges[u]? with
  | none => rfl
  | some list => rw [Option.getD_some, if_neg (h.ne_nil hu)]

/-- Two of them are the same if they have the same edges. -/
theorem eq_of_mem_iff (h : edges.Canonical) (ho : other.Canonical)
    (hmem : ∀ u v, v ∈ edges.targets u ↔ v ∈ other.targets u) : edges = other := by
  refine Std.ExtTreeMap.ext_getElem? fun u => ?_
  have htargets : edges.targets u = other.targets u :=
    (h.pairwise_targets u).eq_of_mem_iff (ho.pairwise_targets u) (hmem u)
  rw [h.getElem?_eq, ho.getElem?_eq, htargets]

end Canonical

theorem canonical_dedup (edges : AdjacencyList) : edges.dedup.Canonical := by
  refine ⟨fun {source list} h => ?_, ne_nil_of_dedup⟩
  have hlist : edges.dedup.targets source = list := by
    rw [targets, h, Option.getD_some]
  have hascending : list.Pairwise (· ≤ ·) := hlist ▸ pairwise_targets_ofPairs _ source
  -- no pair is kept twice, and a target stands as often as its pair
  have hnodup : list.Nodup := by
    rw [← hlist, List.nodup_iff_count_le_one]
    intro v
    rw [dedup, count_targets_ofPairs]
    exact List.nodup_iff_count_le_one.1 (kept_foldl edges.pairs).nodup (source, v)
  exact (hascending.and hnodup).imp fun ⟨hle, hne⟩ => lt_of_le_of_ne hle hne

/-- Only the edges themselves count, not how often and in which order they are listed. -/
theorem dedup_eq_of_mem_iff {edges other : AdjacencyList}
    (h : ∀ u v, v ∈ other.targets u ↔ v ∈ edges.targets u) : other.dedup = edges.dedup := by
  refine (canonical_dedup other).eq_of_mem_iff (canonical_dedup edges) fun u v => ?_
  rw [mem_targets_dedup_iff, mem_targets_dedup_iff, h u v, h v u]

theorem dedup_dedup (edges : AdjacencyList) : edges.dedup.dedup = edges.dedup := by
  refine (canonical_dedup _).eq_of_mem_iff (canonical_dedup edges) fun u v => ?_
  rw [mem_targets_dedup_iff, and_iff_left_iff_imp]
  intro h
  have hloop : u ≠ v := (mem_targets_dedup_iff.1 h).2.1
  -- of the two directions of an edge only one is left
  have hreverse : u ∉ edges.dedup.targets v := fun hr =>
    (kept_foldl edges.pairs).oneWay (mem_targets_dedup.1 h) (mem_targets_dedup.1 hr)
  exact ⟨hloop, Or.inr hreverse⟩

theorem count_targets_dedup (edges : AdjacencyList) (u v : String) :
    (edges.dedup.targets u).count v =
      if v ∈ edges.targets u ∧ u ≠ v ∧ (u < v ∨ u ∉ edges.targets v) then 1 else 0 := by
  by_cases h : v ∈ edges.dedup.targets u
  · have hnodup : (edges.dedup.targets u).Nodup :=
      ((canonical_dedup edges).pairwise_targets u).imp ne_of_lt
    rw [if_pos (mem_targets_dedup_iff.1 h), List.count_eq_one_of_mem hnodup h]
  · rw [if_neg fun hm => h (mem_targets_dedup_iff.2 hm), List.count_eq_zero_of_not_mem h]

/-- **Of each pair of nodes that an edge connects exactly one edge is left, once: the one from the smaller
node if there is one, else the other.** Nothing else is left, no loop and no source without targets, and
the targets of each source ascend. Doing it again changes nothing, and neither does it matter how often
and in which order a source lists its targets. -/
theorem dedup_leaves_one (edges : AdjacencyList) :
    (∀ a b, a < b →
      (edges.dedup.targets a).count b = (if b ∈ edges.targets a then 1 else 0) ∧
      (edges.dedup.targets b).count a =
        if b ∉ edges.targets a ∧ a ∈ edges.targets b then 1 else 0) ∧
    (∀ u, u ∉ edges.dedup.targets u) ∧
    (∀ (source : String) (list : List String), edges.dedup[source]? = some list →
      list ≠ [] ∧ list.Pairwise (· < ·)) ∧
    edges.dedup.dedup = edges.dedup ∧
    ∀ other : AdjacencyList, (∀ u v, v ∈ other.targets u ↔ v ∈ edges.targets u) →
      other.dedup = edges.dedup := by
  refine ⟨fun a b hab => ⟨?_, ?_⟩, fun u hu => ?_, fun source list h => ?_, dedup_dedup edges,
    fun other h => dedup_eq_of_mem_iff h⟩
  · simp [count_targets_dedup, hab, hab.ne]
  · simp [count_targets_dedup, hab.ne', hab.asymm, and_comm]
  · exact (mem_targets_dedup_iff.1 hu).2.1 rfl
  · exact ⟨(canonical_dedup edges).ne_nil h, (canonical_dedup edges).ascending h⟩

/-- Edges in both directions and a loop, two of them listed twice, and a source without targets; and the
same edges listed in another way. -/
theorem dedup_leaves_one_of_tangle :
    let edges : AdjacencyList := Dict.ofEntries [("a", ["b", "a", "b"]), ("b", ["c", "a"]), ("d", [])]
    let other : AdjacencyList := Dict.ofEntries [("a", ["a", "b"]), ("b", ["a", "c", "a"])]
    "a" < "b" ∧ (edges.dedup.targets "a").count "b" = 1 ∧ (edges.dedup.targets "b").count "a" = 0 ∧
      edges.dedup["a"]? = some ["b"] ∧ ["b"].Pairwise (· < ·) ∧
      (∀ u v, v ∈ other.targets u ↔ v ∈ edges.targets u) ∧ other.dedup = edges.dedup := by
  intro edges other
  obtain ⟨hpairs, -, hlists, -, hsame⟩ := dedup_leaves_one edges
  have hab : "a" < "b" := by decide
  have hb : "b" ∈ edges.targets "a" := by decide +kernel
  have hlist : edges.dedup["a"]? = some ["b"] := by decide +kernel
  have hother : ∀ u v, v ∈ other.targets u ↔ v ∈ edges.targets u := by
    intro u v
    simp only [edges, other, targets, Dict.ofEntries, List.foldl_cons, List.foldl_nil,
      Dict.getElem?_insert]
    grind
  obtain ⟨hone, hnone⟩ := hpairs "a" "b" hab
  refine ⟨hab, ?_, ?_, hlist, (hlists "a" ["b"] hlist).2, hother, hsame other hother⟩
  · rw [hone, if_pos hb]
  · rw [hnone, if_neg fun h => h.1 hb]

end ClusterGraph.AdjacencyList
