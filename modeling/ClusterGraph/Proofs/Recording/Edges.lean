import ClusterGraph.Proofs.Graph.Dedup
import ClusterGraph.Proofs.Recording.Contents

/-!
# The edges of a recording

A recorded relation passes several tests before it is an edge of the graph. Two nodes end up connected
exactly if both are shown and some recorded relation joins objects of the two:

* **`edgesBetween_adjacencyList`** — then there is exactly one edge between them, in one of the two
  directions, and otherwise none.
* **`visible_of_adjacencyList`** — in particular every source and every target is shown.

One of the tests is meant to drop edges that lead from a group of pods back to their controller. No
edge gets as far as that: where it looks, the owned side is always the target
(`leadsToController_eq_false`).
-/

namespace ClusterGraph

namespace Object

/-- Hidden are the replica sets for which no replica is wanted, or not known to be. -/
theorem visibleId?_eq_none_iff {grouping : Bool} {object : Object} :
    object.visibleId? grouping = none ↔
      object.isKind .replicaSet = true ∧ ∀ n, object.desiredReplicas? = some n → n < 1 := by
  unfold visibleId? isSkipped
  cases object.isKind .replicaSet <;> cases object.desiredReplicas? <;> simp

theorem isSkipped_of_groupKey? {grouping : Bool} {object : Object} {key : PodGroupKey}
    (h : object.groupKey? grouping = some key) : object.isSkipped = false := by
  unfold groupKey? at h
  split at h
  · rename_i hk
    have hpod : object.kind = "Pod" := by
      simp only [isKind, Bool.and_eq_true, beq_iff_eq] at hk
      exact hk.2.1
    have hkind : object.isKind .replicaSet = false := by
      unfold isKind
      rw [hpod]
      rfl
    simp [isSkipped, hkind]
  · cases h

theorem visibleId?_of_groupKey?_none {grouping : Bool} {object : Object}
    (hk : object.groupKey? grouping = none) (hs : object.isSkipped = false) :
    object.visibleId? grouping = some object.id := by
  simp [visibleId?, hs, hk]

theorem visibleId?_of_groupKey? {grouping : Bool} {object : Object} {key : PodGroupKey}
    (hk : object.groupKey? grouping = some key) :
    object.visibleId? grouping = some key.nodeId := by
  simp [visibleId?, isSkipped_of_groupKey? hk, hk]

/-- Two nodes are those of two objects, in one order or the other. -/
def Spans (a : Object) (grouping : Bool) (b : Object) (u v : String) : Prop :=
  a.visibleId? grouping = some u ∧ b.visibleId? grouping = some v ∨
    a.visibleId? grouping = some v ∧ b.visibleId? grouping = some u

theorem Spans.symm {grouping : Bool} {a b : Object} {u v : String} (h : a.Spans grouping b u v) :
    b.Spans grouping a u v :=
  h.elim (fun ⟨ha, hb⟩ => Or.inr ⟨hb, ha⟩) fun ⟨ha, hb⟩ => Or.inl ⟨hb, ha⟩

end Object

namespace Recording

variable {grouping : Bool} {recording : Recording}

/-! ## What is shown of the objects

An object is shown if it was noted as processed and is still kept under its identifier. The lemmas here
turn the lists that the graph is made from into statements about these two parts of the recording. -/

/-- The object is kept for a processed identifier. -/
def Shows (recording : Recording) (object : Object) : Prop :=
  ∃ id ∈ recording.processed, recording.objects[id]? = some object

theorem mem_processedObjects {id : String} {object : Object} :
    (id, object) ∈ recording.processedObjects ↔
      id ∈ recording.processed ∧ recording.objects[id]? = some object := by
  unfold processedObjects
  simp only [List.mem_filterMap, Std.ExtTreeSet.mem_toList, Option.map_eq_some_iff,
    Prod.mk.injEq]
  constructor
  · rintro ⟨id, hp, object, ho, rfl, rfl⟩
    exact ⟨hp, ho⟩
  · rintro ⟨hp, ho⟩
    exact ⟨id, hp, object, ho, rfl, rfl⟩

theorem mem_visibleIds {id : String} :
    id ∈ recording.visibleIds grouping ↔
      ∃ object, recording.Shows object ∧ object.visibleId? grouping = some id := by
  unfold visibleIds
  rw [Std.ExtTreeSet.mem_ofList, List.contains_iff_mem, List.mem_filterMap]
  constructor
  · rintro ⟨⟨key, object⟩, hm, hv⟩
    exact ⟨object, ⟨key, mem_processedObjects.1 hm⟩, hv⟩
  · rintro ⟨object, ⟨key, hp, ho⟩, hv⟩
    exact ⟨(key, object), mem_processedObjects.2 ⟨hp, ho⟩, hv⟩

/-! ## Recorded relations

Relations are kept between identifiers. They become relations between objects once both identifiers have
one, which is looked up when the graph is asked for. -/

theorem mem_relations {parent child : Object} :
    (parent, child) ∈ recording.relations ↔
      ∃ source target, target ∈ recording.targets source ∧
        recording.objects[source]? = some parent ∧ recording.objects[target]? = some child := by
  unfold relations targets
  rw [List.mem_flatMap]
  constructor
  · rintro ⟨⟨source, keys⟩, hm, h⟩
    rw [Std.ExtTreeMap.mem_toList_iff_getElem?_eq_some] at hm
    dsimp only at h
    -- an identifier without an object contributes nothing
    cases hp : recording.objects[source]? with
    | none => rw [hp] at h; cases h
    | some first =>
      rw [hp] at h
      obtain ⟨target, ht, hc⟩ := List.mem_filterMap.1 h
      obtain ⟨second, hc, heq⟩ := Option.map_eq_some_iff.1 hc
      cases heq
      refine ⟨source, target, ?_, hp, hc⟩
      rw [hm]
      exact Std.ExtTreeSet.mem_toList.1 ht
  · rintro ⟨source, target, ht, hp, hc⟩
    cases hk : recording.edges[source]? with
    | none =>
      rw [hk, Option.getD_none] at ht
      exact absurd ht Std.ExtTreeSet.not_mem_empty
    | some keys =>
      rw [hk, Option.getD_some] at ht
      refine ⟨(source, keys), Std.ExtTreeMap.mem_toList_iff_getElem?_eq_some.2 hk, ?_⟩
      dsimp only
      rw [hp]
      exact List.mem_filterMap.2 ⟨target, Std.ExtTreeSet.mem_toList.2 ht, by rw [hc]; rfl⟩

/-! ## Arrows

An arrow keeps, beside its two nodes, which of the objects counts as owned and which as owner. The tests on
arrows come down to the visibility of both ends, since the one for controllers never applies. -/

/-- A relation between objects of two nodes becomes an arrow between these, from owner to owned. -/
theorem arrow?_of_visible {parent child : Object} {u v : String}
    (hp : parent.visibleId? grouping = some u) (hc : child.visibleId? grouping = some v)
    (huv : u ≠ v) :
    arrow? grouping parent child =
      some (if parent.isOwnedBy child then ⟨v, u, parent, child⟩ else ⟨u, v, child, parent⟩) := by
  unfold arrow?
  rw [hp, hc]
  show (if u = v then none else _) = _
  rw [if_neg huv]
  split <;> rfl

theorem visible_of_arrow? {parent child : Object} {arrow : Arrow}
    (h : arrow? grouping parent child = some arrow) :
    ∃ u v, parent.visibleId? grouping = some u ∧ child.visibleId? grouping = some v ∧ u ≠ v := by
  unfold arrow? at h
  cases hp : parent.visibleId? grouping with
  | none => rw [hp] at h; cases h
  | some u =>
    cases hc : child.visibleId? grouping with
    | none => rw [hp, hc] at h; cases h
    | some v =>
      refine ⟨u, v, rfl, rfl, ?_⟩
      rintro rfl
      rw [hp, hc] at h
      replace h : (if u = u then none else _) = some arrow := h
      rw [if_pos rfl] at h
      cases h

/-- No arrow leads back to a controller: the target is the node of what is owned, and the source is
another one. -/
theorem leadsToController_eq_false {parent child : Object} {arrow : Arrow}
    (h : arrow? grouping parent child = some arrow) :
    arrow.leadsToController grouping = false := by
  obtain ⟨u, v, hp, hc, huv⟩ := visible_of_arrow? h
  rw [arrow?_of_visible hp hc huv] at h
  -- both directions of an arrow put the node of what is owned at its target
  have hends : arrow.source ≠ arrow.target ∧
      arrow.owned.visibleId? grouping = some arrow.target := by
    split at h <;> cases h
    · exact ⟨huv.symm, hp⟩
    · exact ⟨huv, hc⟩
  unfold Arrow.leadsToController
  cases hk : arrow.owned.groupKey? grouping with
  | none => rfl
  | some key =>
    have htarget : key.nodeId = arrow.target :=
      Option.some.inj ((Object.visibleId?_of_groupKey? hk).symm.trans hends.2)
    have hne : arrow.source ≠ key.nodeId := htarget ▸ hends.1
    simp [hne]

/-- So an arrow is shown as soon as both of its ends are. -/
theorem isShown_iff {parent child : Object} {arrow : Arrow} {visible : Keys}
    (h : arrow? grouping parent child = some arrow) :
    arrow.isShown grouping visible = true ↔ arrow.source ∈ visible ∧ arrow.target ∈ visible := by
  unfold Arrow.isShown
  rw [leadsToController_eq_false h]
  simp

/-! ## The edges before one is chosen for each pair

The adjacency list is built by adding arrows one after another, and an arrow that is there already is not
added again. As a set, then, it holds the arrows that pass the tests, and `foldl_iff` says so without an
induction of its own. -/

theorem mem_targets_addArrow (edges : AdjacencyList) (arrow : Arrow) (u v : String) :
    v ∈ (addArrow edges arrow).targets u ↔
      v ∈ edges.targets u ∨ arrow.source = u ∧ arrow.target = v := by
  unfold addArrow
  by_cases hm : arrow.target ∈ edges.targets arrow.source
  · have hc : (edges[arrow.source]?.getD []).contains arrow.target = true :=
      List.contains_iff_mem.2 hm
    simp only [hc, if_true]
    constructor
    · exact Or.inl
    · rintro (h | ⟨rfl, rfl⟩)
      · exact h
      · exact hm
  · have hc : ¬ (edges[arrow.source]?.getD []).contains arrow.target = true :=
      fun h => hm (List.contains_iff_mem.1 h)
    simp only [if_neg hc]
    unfold AdjacencyList.targets
    rw [Dict.getElem?_insert]
    -- the new target goes to the end of the list of one source
    by_cases hs : arrow.source = u
    · subst hs
      simp [eq_comm]
    · simp [hs]

/-- What the recorded relations become, before it is known which of them are shown. -/
def arrows (recording : Recording) (grouping : Bool) : List Arrow :=
  recording.relations.filterMap fun (parent, child) => arrow? grouping parent child

theorem mem_arrows {arrow : Arrow} :
    arrow ∈ recording.arrows grouping ↔
      ∃ parent child, (parent, child) ∈ recording.relations ∧
        arrow? grouping parent child = some arrow := by
  unfold arrows
  rw [List.mem_filterMap]
  exact ⟨fun ⟨⟨parent, child⟩, h⟩ => ⟨parent, child, h⟩, fun ⟨parent, child, h⟩ => ⟨(parent, child), h⟩⟩

theorem mem_targets_shownEdges_iff_arrow {u v : String} :
    v ∈ (recording.shownEdges grouping).targets u ↔
      ∃ arrow ∈ recording.arrows grouping,
        arrow.isShown grouping (recording.visibleIds grouping) = true ∧
          arrow.source = u ∧ arrow.target = v := by
  have hfold := foldl_iff (fun edges : AdjacencyList => v ∈ edges.targets u)
    (fun edges arrow => mem_targets_addArrow edges arrow u v)
  have hempty : v ∉ AdjacencyList.targets ∅ u := by simp [AdjacencyList.targets]
  show v ∈ (((recording.arrows grouping).filter
    (·.isShown grouping (recording.visibleIds grouping))).foldl addArrow ∅).targets u ↔ _
  rw [hfold]
  simp only [hempty, false_or, List.mem_filter, and_assoc]

/-- The edges that are shown, in terms of the relations that they come from. -/
theorem mem_targets_shownEdges {u v : String} :
    v ∈ (recording.shownEdges grouping).targets u ↔
      (∃ parent child arrow, (parent, child) ∈ recording.relations ∧
        arrow? grouping parent child = some arrow ∧ arrow.source = u ∧ arrow.target = v) ∧
      u ∈ recording.visibleIds grouping ∧ v ∈ recording.visibleIds grouping := by
  rw [mem_targets_shownEdges_iff_arrow]
  constructor
  · rintro ⟨arrow, hm, hs, rfl, rfl⟩
    obtain ⟨parent, child, hm, ha⟩ := mem_arrows.1 hm
    exact ⟨⟨parent, child, arrow, hm, ha, rfl, rfl⟩, (isShown_iff ha).1 hs⟩
  · rintro ⟨⟨parent, child, arrow, hm, ha, rfl, rfl⟩, hs⟩
    exact ⟨arrow, mem_arrows.2 ⟨parent, child, hm, ha⟩, (isShown_iff ha).2 hs, rfl, rfl⟩

def Joins (recording : Recording) (grouping : Bool) (u v : String) : Prop :=
  ∃ parent child, (parent, child) ∈ recording.relations ∧ parent.Spans grouping child u v

/-- Two nodes are joined by an edge that is shown, in some direction, exactly if both are shown and a
relation joins objects of the two. -/
theorem shownEdges_connect_iff {u v : String} (huv : u ≠ v) :
    (v ∈ (recording.shownEdges grouping).targets u ∨
        u ∈ (recording.shownEdges grouping).targets v) ↔
      recording.Joins grouping u v ∧
        u ∈ recording.visibleIds grouping ∧ v ∈ recording.visibleIds grouping := by
  rw [mem_targets_shownEdges, mem_targets_shownEdges]
  constructor
  · rintro (⟨⟨parent, child, arrow, hm, ha, rfl, rfl⟩, hs, ht⟩ |
      ⟨⟨parent, child, arrow, hm, ha, rfl, rfl⟩, hs, ht⟩)
    all_goals
      obtain ⟨x, y, hp, hc, hxy⟩ := visible_of_arrow? ha
      rw [arrow?_of_visible hp hc hxy] at ha
      refine ⟨⟨parent, child, hm, ?_⟩, by assumption, by assumption⟩
      split at ha <;> cases ha <;> simp [Object.Spans, hp, hc]
  · rintro ⟨⟨parent, child, hm, h⟩, hu, hv⟩
    -- ownership decides which way the arrow points, not whether there is one
    rcases h with ⟨hp, hc⟩ | ⟨hp, hc⟩
    · have ha := arrow?_of_visible hp hc huv
      by_cases ho : parent.isOwnedBy child
      · exact Or.inr ⟨⟨parent, child, _, hm, ha, by simp [ho], by simp [ho]⟩, hv, hu⟩
      · exact Or.inl ⟨⟨parent, child, _, hm, ha, by simp [ho], by simp [ho]⟩, hu, hv⟩
    · have ha := arrow?_of_visible hp hc huv.symm
      by_cases ho : parent.isOwnedBy child
      · exact Or.inl ⟨⟨parent, child, _, hm, ha, by simp [ho], by simp [ho]⟩, hu, hv⟩
      · exact Or.inr ⟨⟨parent, child, _, hm, ha, by simp [ho], by simp [ho]⟩, hv, hu⟩

/-! ## The edges of the graph

What is left is the choice of one edge for each pair of nodes, which `AdjacencyList.edgesBetween_dedup`
counts. -/

/-- **Two nodes are connected by exactly one edge if both are shown and a relation joins objects of the
two**, and by none otherwise. -/
theorem edgesBetween_adjacencyList {u v : String} (huv : u ≠ v) :
    (recording.Joins grouping u v ∧
        u ∈ recording.visibleIds grouping ∧ v ∈ recording.visibleIds grouping →
      (recording.adjacencyList grouping).edgesBetween u v = 1) ∧
    (¬ (recording.Joins grouping u v ∧
        u ∈ recording.visibleIds grouping ∧ v ∈ recording.visibleIds grouping) →
      (recording.adjacencyList grouping).edgesBetween u v = 0) := by
  unfold adjacencyList
  rw [AdjacencyList.edgesBetween_dedup _ huv, ← shownEdges_connect_iff huv]
  exact ⟨fun h => if_pos h, fun h => if_neg h⟩

theorem visible_of_adjacencyList {u v : String}
    (h : v ∈ (recording.adjacencyList grouping).targets u) :
    u ∈ recording.visibleIds grouping ∧ v ∈ recording.visibleIds grouping :=
  (mem_targets_shownEdges.1 (AdjacencyList.mem_targets_of_dedup h)).2

end Recording

end ClusterGraph
