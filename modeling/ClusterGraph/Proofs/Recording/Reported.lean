import ClusterGraph.Proofs.Recording.Directions
import ClusterGraph.Proofs.Recording.Quotient

/-!
# From reported relations to edges

A relation may be reported from either end, before its ends are processed, or without that they ever are.
What becomes of it:

* **`reported_relation_shown_once`** — between the nodes of two processed objects there is one edge, in one
  direction. No test on the way drops a relation.
* **`connects_iff_reported`** — all edges come from reported relations. An end need not have been
  processed: it is enough that another processed object has the same node, which takes a group of pods.
* **`not_forall_edge_ends_processed`** — so a pod that was never processed may leave an edge at its group.
-/

namespace ClusterGraph

namespace Recording

variable {grouping : Bool} {calls : List Call} {recording : Recording} {u v : String}

/-! ## Relations between nodes

A recording keeps the relations with their ends in one of two orders. `Related` forgets the order, and so
is reporting a relation from one end as good as from the other. -/

theorem related_absorbAll_iff {s t : String} (hst : s ≠ t) :
    (absorbAll grouping calls).Related s t ↔
      ∃ call ∈ calls, ∃ a b, call.Reports a b ∧ a.id = s ∧ b.id = t := by
  unfold Related
  rw [mem_targets_absorbAll, mem_targets_absorbAll]
  constructor
  · rintro (⟨call, hm, a, b, hr, hs, ht⟩ | ⟨call, hm, b, a, hr, ht, hs⟩)
    · exact ⟨call, hm, a, b, (Call.relates_or_iff.1 (Or.inl hr)).1, hs, ht⟩
    · exact ⟨call, hm, a, b, (Call.relates_or_iff.1 (Or.inr hr)).1, hs, ht⟩
  · rintro ⟨call, hm, a, b, hreports, rfl, rfl⟩
    -- the grouping decides the order of the ends, which is not asked for here
    have hkept : call.Relates grouping a b ∨ call.Relates grouping b a :=
      Call.relates_or_iff.2 ⟨hreports, hst⟩
    exact hkept.imp (fun hr => ⟨call, hm, a, b, hr, rfl, rfl⟩) fun hr => ⟨call, hm, b, a, hr, rfl, rfl⟩

/-- Two different nodes are joined exactly if a reported relation has its ends shown as these. -/
theorem joins_absorbAll_iff (huv : u ≠ v) :
    (absorbAll grouping calls).Joins grouping u v ↔
      ∃ call ∈ calls, ∃ a b, call.Reports a b ∧
        (absorbAll grouping calls).shownAs? grouping a.id = some u ∧
        (absorbAll grouping calls).shownAs? grouping b.id = some v := by
  -- the ends differ, since their nodes do
  have hne : ∀ {s t : String}, (absorbAll grouping calls).shownAs? grouping s = some u →
      (absorbAll grouping calls).shownAs? grouping t = some v → s ≠ t := by
    rintro s t hs ht rfl
    rw [hs] at ht
    exact huv (Option.some.inj ht)
  rw [joins_iff]
  constructor
  · rintro ⟨s, t, hrelated, hs, ht⟩
    obtain ⟨call, hm, a, b, hr, rfl, rfl⟩ := (related_absorbAll_iff (hne hs ht)).1 hrelated
    exact ⟨call, hm, a, b, hr, hs, ht⟩
  · rintro ⟨call, hm, a, b, hr, hs, ht⟩
    have hrelated : (absorbAll grouping calls).Related a.id b.id :=
      (related_absorbAll_iff (hne hs ht)).2 ⟨call, hm, a, b, hr, rfl, rfl⟩
    exact ⟨a.id, b.id, hrelated, hs, ht⟩

/-! ## No relation is lost

Between a reported relation and an edge stand the test for visible ends, the test for controllers and the
choice between opposite edges. The first one passes because both ends were processed, the second one
always does, and the third one leaves an edge between the same nodes. -/

/-- **A relation between processed objects of two nodes is shown once**: there is one edge between the two
nodes, and none in the opposite direction. The test for edges that lead back to a controller drops
nothing, whatever is recorded. -/
theorem reported_relation_shown_once {parent child : Object} (hm : .edge parent child ∈ calls)
    (haccepted : (Call.edge parent child).IsAccepted)
    (hparent : parent.id ∈ (absorbAll grouping calls).processed)
    (hchild : child.id ∈ (absorbAll grouping calls).processed)
    (hu : (absorbAll grouping calls).shownAs? grouping parent.id = some u)
    (hv : (absorbAll grouping calls).shownAs? grouping child.id = some v) (huv : u ≠ v) :
    let edges := (absorbAll grouping calls).adjacencyList grouping
    ((edges.targets u).count v = 1 ∧ u ∉ edges.targets v ∨
      (edges.targets v).count u = 1 ∧ v ∉ edges.targets u) ∧
    ∀ recording : Recording, ∀ arrow ∈ recording.arrows grouping,
      arrow.leadsToController grouping = false := by
  intro edges
  have huVisible : u ∈ (absorbAll grouping calls).visibleIds grouping :=
    mem_visibleIds_iff_shownAs?.2 ⟨parent.id, hparent, hu⟩
  have hvVisible : v ∈ (absorbAll grouping calls).visibleIds grouping :=
    mem_visibleIds_iff_shownAs?.2 ⟨child.id, hchild, hv⟩
  -- the stored objects decide which nodes the relation joins, not those that were reported
  have hjoins : (absorbAll grouping calls).Joins grouping u v :=
    (joins_absorbAll_iff huv).2 ⟨_, hm, parent, child, ⟨haccepted, Or.inl rfl⟩, hu, hv⟩
  have hone : edges.edgesBetween u v = 1 :=
    (edgesBetween_adjacencyList huv).1 ⟨hjoins, huVisible, hvVisible⟩
  refine ⟨AdjacencyList.edgesBetween_eq_one_iff.1 hone, fun recording arrow ha => ?_⟩
  obtain ⟨_, _, _, ha⟩ := mem_arrows.1 ha
  exact leadsToController_eq_false ha

/-- A replica set and a pod of it that report their relation both ways. -/
theorem reported_relation_shown_once_of_pod :
    let calls := [.edge (Sample.pod "p1") Sample.replicaSet, .process Sample.replicaSet,
      .edge Sample.replicaSet (Sample.pod "p1"), .process (Sample.pod "p1")]
    ((absorbAll true calls).adjacencyList true).edgesBetween Sample.group.nodeId "rs" = 1 := by
  intro calls
  have hm : .edge (Sample.pod "p1") Sample.replicaSet ∈ calls := by simp [calls]
  have hpod : (absorbAll true calls).shownAs? true "p1" = some Sample.group.nodeId :=
    (shownAs?_of_objects rfl).trans (Sample.visibleId?_pod "p1")
  have hset : (absorbAll true calls).shownAs? true "rs" = some "rs" := rfl
  obtain ⟨hone, -⟩ := reported_relation_shown_once hm (by decide) (by decide) (by decide) hpod hset
    (by decide)
  exact AdjacencyList.edgesBetween_eq_one_iff.2 hone

/-! ## Where edges come from

The test for visible ends asks for the nodes, not for the objects. A group is visible as soon as one of
its pods was processed, and it then shows the relations of the others as well. -/

/-- Of the node that would show the object of an identifier, some object was processed. -/
def Represented (recording : Recording) (grouping : Bool) (id : String) : Prop :=
  ∃ other ∈ recording.processed, recording.shownAs? grouping other = recording.shownAs? grouping id

theorem represented_iff {id : String} (hu : recording.shownAs? grouping id = some u) :
    recording.Represented grouping id ↔ u ∈ recording.visibleIds grouping := by
  rw [mem_visibleIds_iff_shownAs?, Represented, hu]

/-- Only groups of pods show more than one object. -/
theorem exists_groupKey?_of_shownAs? (hw : recording.WellFormed) {s t : String} (hst : s ≠ t)
    (hs : recording.shownAs? grouping s = some u) (ht : recording.shownAs? grouping t = some u) :
    ∃ pod key, (recording.objects[s]? = some pod ∨ recording.objects[t]? = some pod) ∧
      pod.groupKey? grouping = some key ∧ key.nodeId = u := by
  obtain ⟨a, ha, hau⟩ := Option.bind_eq_some_iff.1 hs
  obtain ⟨b, hb, hbu⟩ := Option.bind_eq_some_iff.1 ht
  cases hka : a.groupKey? grouping with
  | some key => exact ⟨a, key, Or.inl ha, hka, Object.nodeId_of_visibleId? hka hau⟩
  | none =>
    cases hkb : b.groupKey? grouping with
    | some key => exact ⟨b, key, Or.inr hb, hkb, Object.nodeId_of_visibleId? hkb hbu⟩
    | none =>
      -- each of the two is shown under its own identifier
      have hsu : s = u := (hw.id_eq ha).symm.trans (Object.id_of_visibleId? hka hau)
      have htu : t = u := (hw.id_eq hb).symm.trans (Object.id_of_visibleId? hkb hbu)
      exact absurd (hsu.trans htu.symm) hst

theorem shownAs?_bypassed :
    (absorbAll true Sample.bypassed).shownAs? true "svc" = some "svc" ∧
      (absorbAll true Sample.bypassed).shownAs? true "p1" = some Sample.group.nodeId ∧
      (absorbAll true Sample.bypassed).shownAs? true "p2" = some Sample.group.nodeId :=
  ⟨rfl, (shownAs?_of_objects rfl).trans (Sample.visibleId?_pod "p1"),
    (shownAs?_of_objects rfl).trans (Sample.visibleId?_pod "p2")⟩

theorem reports_bypassed :
    ∃ call ∈ Sample.bypassed, call.Reports Sample.service (Sample.pod "p2") := by
  refine ⟨.edge Sample.service (Sample.pod "p2"), ?_, by decide, Or.inl rfl⟩
  simp [Sample.bypassed]

/-- **Edges come from reported relations**: two nodes are connected exactly if they are different and an
accepted call reports a relation whose ends they show, where each node shows a processed object. An end
that was not processed itself is one that a group shows, or is to show, together with others. -/
theorem connects_iff_reported (grouping : Bool) (calls : List Call) :
    let recording := absorbAll grouping calls
    (∀ u v, (recording.adjacencyList grouping).Connects u v ↔
      u ≠ v ∧ ∃ call ∈ calls, ∃ a b, call.Reports a b ∧
        (recording.shownAs? grouping a.id = some u ∧ recording.shownAs? grouping b.id = some v) ∧
        recording.Represented grouping a.id ∧ recording.Represented grouping b.id) ∧
    ∀ id u, recording.shownAs? grouping id = some u → recording.Represented grouping id →
      id ∈ recording.processed ∨
        ∃ other ∈ recording.processed, recording.shownAs? grouping other = some u ∧
          ∃ pod key, (recording.objects[id]? = some pod ∨ recording.objects[other]? = some pod) ∧
            pod.groupKey? grouping = some key ∧ key.nodeId = u := by
  intro recording
  refine ⟨fun u v => ?_, fun id u hu hrepresented => ?_⟩
  · -- the filter asks for both nodes to be visible, and says nothing of the ends
    rw [connects_adjacencyList_iff]
    refine and_congr_right fun huv => ?_
    rw [joins_absorbAll_iff huv]
    constructor
    · rintro ⟨⟨call, hm, a, b, hr, hu, hv⟩, hvisible⟩
      exact ⟨call, hm, a, b, hr, ⟨hu, hv⟩, (represented_iff hu).2 hvisible.1,
        (represented_iff hv).2 hvisible.2⟩
    · rintro ⟨call, hm, a, b, hr, ⟨hu, hv⟩, hua, hvb⟩
      exact ⟨⟨call, hm, a, b, hr, hu, hv⟩, (represented_iff hu).1 hua, (represented_iff hv).1 hvb⟩
  · have hw : recording.WellFormed := (reachable_absorbAll grouping calls).wellFormed
    obtain ⟨other, hother, heq⟩ := hrepresented
    rw [hu] at heq
    -- the processed object may be the end itself; else one node shows two objects
    by_cases hid : id = other
    · exact Or.inl (hid ▸ hother)
    · exact Or.inr ⟨other, hother, heq, exists_groupKey?_of_shownAs? hw hid hu heq⟩

/-- The service picks a pod that was not processed, and is connected with the group, which shows another
one. -/
theorem connects_iff_reported_of_bypassed :
    let recording := absorbAll true Sample.bypassed
    "p2" ∉ recording.processed ∧
      (recording.adjacencyList true).Connects "svc" Sample.group.nodeId := by
  intro recording
  obtain ⟨hconnects, -⟩ := connects_iff_reported true Sample.bypassed
  obtain ⟨hservice, hp1, hp2⟩ := shownAs?_bypassed
  obtain ⟨call, hm, hreports⟩ := reports_bypassed
  have hsvc : recording.Represented true "svc" := ⟨"svc", by decide, rfl⟩
  have hpod : recording.Represented true "p2" := ⟨"p1", by decide, hp1.trans hp2.symm⟩
  exact ⟨by decide, (hconnects _ _).2 ⟨by decide, call, hm, _, _, hreports, ⟨hservice, hp2⟩, hsvc, hpod⟩⟩

/-- A relation with a pod that was never processed is shown, at the group of the pod. -/
theorem not_forall_edge_ends_processed :
    ¬ ∀ (grouping : Bool) (calls : List Call) (u v : String), Call.Consistent calls →
      v ∈ ((absorbAll grouping calls).adjacencyList grouping).targets u →
      ∃ parent child, .edge parent child ∈ calls ∧ (Call.edge parent child).IsAccepted ∧
        parent.id ∈ (absorbAll grouping calls).processed ∧
        child.id ∈ (absorbAll grouping calls).processed ∧ parent.Spans grouping child u v := by
  intro hall
  have hobjects : ∀ call ∈ Sample.bypassed, ∀ object ∈ call.objects,
      object ∈ [Sample.service, Sample.pod "p1", Sample.pod "p2"] := by
    simp [Sample.bypassed, Call.objects]
  have hid : Call.Consistent Sample.bypassed := Call.consistent_of_nodup hobjects (by decide)
  -- the only relation that is reported leads to the pod
  have hnone : ∀ u v,
      v ∉ ((absorbAll true Sample.bypassed).adjacencyList true).targets u := by
    intro u v hv
    obtain ⟨parent, child, hm, -, -, hchild, -⟩ := hall true Sample.bypassed u v hid hv
    have hpod : child = Sample.pod "p2" := by
      simp only [Sample.bypassed, List.mem_cons, Call.edge.injEq, reduceCtorEq, List.not_mem_nil,
        or_false, false_or] at hm
      exact hm.2
    rw [hpod] at hchild
    exact absurd hchild (by decide)
  obtain ⟨hservice, hp1, hp2⟩ := shownAs?_bypassed
  obtain ⟨call, hm, hreports⟩ := reports_bypassed
  have hne : "svc" ≠ Sample.group.nodeId := by decide
  have hconnects : ((absorbAll true Sample.bypassed).adjacencyList true).Connects "svc"
      Sample.group.nodeId := by
    refine connects_adjacencyList_iff.2 ⟨hne, ?_, ?_, ?_⟩
    · exact (joins_absorbAll_iff hne).2 ⟨call, hm, _, _, hreports, hservice, hp2⟩
    · exact mem_visibleIds_iff_shownAs?.2 ⟨"svc", by decide, hservice⟩
    · exact mem_visibleIds_iff_shownAs?.2 ⟨"p1", by decide, hp1⟩
  exact hconnects.elim (hnone _ _) (hnone _ _)

end Recording

end ClusterGraph
