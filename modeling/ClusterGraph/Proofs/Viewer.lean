import ClusterGraph.Proofs.Recording.Nodes
import ClusterGraph.Proofs.Traversal.Walk

/-!
# The graph around an object

A viewer walks, records and shows. Put together, where identifiers stand for one object each:

* **`Recording.shows_iff_reaches`** — what is shown are the objects that are reached.
* **`Recording.joins_iff_connects`** — two nodes are joined if a relation of a reached object leads from
  one to the other.
* **`Viewer.visit_shows_reached`** — so the graph around an object has one node for each visible
  identifier of a reached object, and one edge for each pair of nodes that a relation connects.
-/

namespace ClusterGraph

/-- A relation of a reached object connects two nodes. -/
def Store.Connects (store : Store) (start : Object) (grouping : Bool) (u v : String) : Prop :=
  ∃ object relations relation, store.Reaches start object ∧
    store.relations object = .ok relations ∧ relation ∈ relations ∧
    object.Spans grouping relation.object u v

namespace Recording

/-! ## The recording of a whole walk

The two sides are known as sets of calls: what the recording holds (`Recording/Contents`), and which calls
a walk makes. What is left is to read processed objects and kept relations off the calls. -/

/-- The calls of all reached objects have been made, and taken. -/
structure Covers (calls : List Call) (store : Store) (start : Object) : Prop where
  consistent : store.Consistent start
  mem_iff : ∀ {call : Call}, call ∈ calls ↔ store.Reports start call
  accepted : ∀ {call : Call}, call ∈ calls → call.IsAccepted

variable {calls : List Call} {store : Store} {start : Object} {grouping : Bool}

theorem Covers.reaches (h : Covers calls store start) {id : String} {object : Object}
    (ho : (absorbAll grouping calls).objects[id]? = some object) : store.Reaches start object := by
  obtain ⟨_, call, hm, hn⟩ := exists_noted_of_objects ho
  exact (h.mem_iff.1 hm).reaches hn.mem_objects

theorem Covers.getElem?_objects (h : Covers calls store start) {object : Object}
    (hreach : store.Reaches start object) :
    (absorbAll grouping calls).objects[object.id]? = some object := by
  have hcall : Call.process object ∈ calls := h.mem_iff.2 (.process hreach)
  have hnotes : (Call.process object).Notes grouping object := Or.inl ⟨h.accepted hcall, rfl⟩
  have hid : Call.Consistent calls :=
    Store.consistent_of_reports h.consistent fun call hm => h.mem_iff.1 hm
  exact getElem?_objects_of_notes hid hcall hnotes

/-- **The objects that are shown are those that are reached.** -/
theorem shows_iff_reaches (h : Covers calls store start) {object : Object} :
    (absorbAll grouping calls).Shows object ↔ store.Reaches start object := by
  constructor
  · rintro ⟨id, _, ho⟩
    exact h.reaches ho
  · intro hreach
    have hcall : Call.process object ∈ calls := h.mem_iff.2 (.process hreach)
    refine ⟨object.id, ?_, h.getElem?_objects hreach⟩
    exact mem_processed_absorbAll.2 ⟨_, hcall, object, ⟨h.accepted hcall, rfl⟩, rfl⟩

/-- A kept relation has the visited object at one end and the related one at the other. -/
theorem ends_of_orient {object parent child first second : Object} {relation : Relation}
    (hc : relation.call object = .edge parent child)
    (ho : orient grouping parent child = (first, second)) :
    first = object ∧ second = relation.object ∨ first = relation.object ∧ second = object := by
  rcases relation.call_cases object with h | h <;> rw [h] at hc <;> cases hc <;>
    rcases orient_cases grouping _ _ with h' | h' <;> rw [ho] at h' <;> cases h' <;> simp

/-- So it connects the same nodes as the relation that was reported. -/
theorem spans_of_orient {object parent child first second : Object} {relation : Relation}
    (hc : relation.call object = .edge parent child)
    (ho : orient grouping parent child = (first, second)) {u v : String} :
    first.Spans grouping second u v ↔ object.Spans grouping relation.object u v := by
  rcases ends_of_orient hc ho with ⟨rfl, rfl⟩ | ⟨rfl, rfl⟩
  · exact Iff.rfl
  · exact ⟨Object.Spans.symm, Object.Spans.symm⟩

/-- **Nodes are joined if a relation of a reached object connects them.** -/
theorem joins_iff_connects (h : Covers calls store start) {u v : String} (huv : u ≠ v) :
    (absorbAll grouping calls).Joins grouping u v ↔ store.Connects start grouping u v := by
  constructor
  · -- from a kept relation back to the call that reported it, and from there to the visited object
    rintro ⟨first, second, hm, hspans⟩
    obtain ⟨_, _, ht, hfirst, hsecond⟩ := mem_relations.1 hm
    obtain ⟨call, hcall, a, b, hrel, rfl, rfl⟩ := mem_targets_absorbAll.1 ht
    have hreach : ∀ {object : Object}, object ∈ call.objects → store.Reaches start object :=
      (h.mem_iff.1 hcall).reaches
    -- what is kept under the identifiers are the ends of the reported relation themselves
    rw [h.getElem?_objects (hreach hrel.mem_objects.1)] at hfirst
    rw [h.getElem?_objects (hreach hrel.mem_objects.2)] at hsecond
    cases hfirst
    cases hsecond
    obtain ⟨_, _, parent, child, rfl, ho⟩ := hrel
    obtain ⟨object, relations, relation, hobject, hr, hmem, hc⟩ :=
      Store.reports_edge_iff.1 (h.mem_iff.1 hcall)
    exact ⟨object, relations, relation, hobject, hr, hmem, (spans_of_orient hc ho).1 hspans⟩
  · rintro ⟨object, relations, relation, hobject, hr, hmem, hspans⟩
    obtain ⟨parent, child, hc⟩ : ∃ parent child, relation.call object = .edge parent child :=
      ⟨_, _, rfl⟩
    rcases ho : orient grouping parent child with ⟨first, second⟩
    have hreport : store.Reports start (.edge parent child) := hc ▸ .edge hobject hr hmem
    have hcall : Call.edge parent child ∈ calls := h.mem_iff.2 hreport
    have hspans : first.Spans grouping second u v := (spans_of_orient hc ho).2 hspans
    have hreach : store.Reaches start first ∧ store.Reaches start second := by
      have hrelated : store.Reaches start relation.object := hobject.step hr hmem
      rcases ends_of_orient hc ho with ⟨rfl, rfl⟩ | ⟨rfl, rfl⟩
      · exact ⟨hobject, hrelated⟩
      · exact ⟨hrelated, hobject⟩
    have hne : first.id ≠ second.id := by
      intro hid
      -- one object cannot be shown as two nodes
      have heq : first = second := hreach.1.eq_of_id h.consistent hreach.2 hid
      subst heq
      rcases hspans with ⟨hu, hv⟩ | ⟨hv, hu⟩ <;> rw [hu] at hv <;> cases hv <;> exact huv rfl
    have ht : second.id ∈ (absorbAll grouping calls).targets first.id :=
      mem_targets_absorbAll.2
        ⟨_, hcall, first, second, ⟨h.accepted hcall, hne, parent, child, rfl, ho⟩, rfl, rfl⟩
    refine ⟨first, second, mem_relations.2 ⟨_, _, ht, ?_, ?_⟩, hspans⟩
    · exact h.getElem?_objects hreach.1
    · exact h.getElem?_objects hreach.2

theorem visible_of_connects (h : Covers calls store start) {u v : String}
    (hc : store.Connects start grouping u v) :
    u ∈ (absorbAll grouping calls).visibleIds grouping ∧
      v ∈ (absorbAll grouping calls).visibleIds grouping := by
  obtain ⟨object, relations, relation, hobject, hr, hm, hspans⟩ := hc
  have hrelated : store.Reaches start relation.object := hobject.step hr hm
  rw [mem_visibleIds, mem_visibleIds]
  rcases hspans with ⟨hu, hv⟩ | ⟨hv, hu⟩
  · exact ⟨⟨object, (shows_iff_reaches h).2 hobject, hu⟩,
      ⟨relation.object, (shows_iff_reaches h).2 hrelated, hv⟩⟩
  · exact ⟨⟨relation.object, (shows_iff_reaches h).2 hrelated, hu⟩,
      ⟨object, (shows_iff_reaches h).2 hobject, hv⟩⟩

theorem graph_eq_ok {recording : Recording} {view : View} {selected : String} {graph : Graph}
    (h : recording.graph view selected = .ok graph) :
    recording.nodes view = .ok graph.nodes ∧
      graph.edges = edgesAmong (recording.adjacencyList view.grouping) graph.nodes := by
  unfold Recording.graph at h
  cases hn : recording.nodes view with
  | error error => rw [hn] at h; cases h
  | ok nodes =>
    rw [hn] at h
    cases h
    exact ⟨rfl, rfl⟩

end Recording

namespace Viewer

/-! ## The graph of a viewer

A viewer walks one visit after the other, and this walk is one of the runs. So its recording is that of
calls which cover what is reached, and the graph made of it is known part by part. -/

theorem visitSelecting_eq (viewer : Viewer) (start : Object) (selected : String) :
    viewer.visitSelecting start selected false =
      match Recording.ofTrace viewer.view.grouping (viewer.store.walkFrom ∅ start) with
      | .error error => .error (.visit start.kind start.nameAny error)
      | .ok recording =>
        (recording.graph viewer.view selected).mapError (.build start.kind start.nameAny) := rfl

/-- A graph comes from a recording that covers everything reached. -/
theorem exists_covers_of_visitSelecting {viewer : Viewer} {start : Object} {selected : String}
    {cancelled : Bool} {graph : Graph} (hid : viewer.store.Consistent start)
    (h : viewer.visitSelecting start selected cancelled = .ok graph) :
    ∃ calls, Recording.Covers calls viewer.store start ∧
      (Recording.absorbAll viewer.view.grouping calls).graph viewer.view selected = .ok graph := by
  cases cancelled with
  | true => cases h
  | false =>
    obtain ⟨final, hcomplete, hout⟩ :=
      Exploration.exists_complete_walk viewer.store viewer.view.grouping start
    rw [visitSelecting_eq, ← hout, Exploration.outcome] at h
    cases hf : final.failure with
    | some error => rw [hf] at h; cases h
    | none =>
      rw [hf] at h
      have hinv := hcomplete.run.invariant hf
      refine ⟨final.calls, ⟨hid, hcomplete.mem_calls_iff hid hf, hinv.accepted _⟩, ?_⟩
      rw [← hinv.recording]
      exact mapError_eq_ok.1 h

/-- **The graph around an object shows what is reached from it.** Its nodes are the visible identifiers
of the reached objects; two different nodes are connected by exactly one edge, in one of the two
directions, if a relation of a reached object connects them, and by none otherwise. -/
theorem visit_shows_reached (viewer : Viewer) {start : Object} {cancelled : Bool} {graph : Graph}
    (hid : viewer.store.Consistent start) (h : viewer.visit start cancelled = .ok graph) :
    (∀ id, id ∈ graph.nodes ↔
      ∃ object, viewer.store.Reaches start object ∧
        object.visibleId? viewer.view.grouping = some id) ∧
    ∀ u v, u ≠ v →
      (viewer.store.Connects start viewer.view.grouping u v →
        graph.edges.edgesBetween u v = 1) ∧
      (¬ viewer.store.Connects start viewer.view.grouping u v →
        graph.edges.edgesBetween u v = 0) := by
  obtain ⟨calls, hcovers, hgraph⟩ := exists_covers_of_visitSelecting hid h
  obtain ⟨hnodes, hedges⟩ := Recording.graph_eq_ok hgraph
  have hw : (Recording.absorbAll viewer.view.grouping calls).WellFormed :=
    (Recording.reachable_absorbAll viewer.view.grouping calls).wellFormed
  refine ⟨fun id => ?_, fun u v huv => ?_⟩
  · rw [Recording.mem_nodes_iff hw hnodes, Recording.mem_visibleIds]
    simp only [Recording.shows_iff_reaches hcovers]
  · rw [hedges, Recording.edgesAmong_adjacencyList hw hnodes,
      ← Recording.joins_iff_connects hcovers huv]
    refine ⟨fun hj => ?_, fun hj => ?_⟩
    · have hc := (Recording.joins_iff_connects hcovers huv).1 hj
      exact (Recording.edgesBetween_adjacencyList huv).1
        ⟨hj, Recording.visible_of_connects hcovers hc⟩
    · exact (Recording.edgesBetween_adjacencyList huv).2 fun hall => hj hall.1

/-- A service and a pod that lead to each other, so that both report their relation: there is one edge
between the service and the group of the pod. -/
theorem visit_shows_reached_of_pair :
    ∃ graph, (Viewer.mk Sample.pair Sample.view).visit Sample.service false = .ok graph ∧
      (∀ id, id ∈ graph.nodes ↔ ∃ object, Sample.pair.Reaches Sample.service object ∧
        object.visibleId? true = some id) ∧
      graph.edges.edgesBetween "svc" "pods:7:default:7:apps/v1:10:ReplicaSet:3:web" = 1 := by
  have hid : Sample.pair.Consistent Sample.service :=
    Store.consistent_of_nodup (by simp [Sample.pair]) (by decide +kernel)
  have hservice : Sample.pair.relations Sample.service = .ok [.outgoing (Sample.pod "p1")] := rfl
  have hpod : Sample.pair.relations (Sample.pod "p1") = .ok [.incoming Sample.service] := rfl
  have hmpod : Sample.pod "p1" ∈ Sample.pair.objects := List.mem_cons_self
  have hmservice : Sample.service ∈ Sample.pair.objects := by simp [Sample.pair]
  have hwalk : Sample.pair.walk Sample.service false =
      ⟨[.process Sample.service, .edge Sample.service (Sample.pod "p1"),
        .process (Sample.pod "p1"), .edge Sample.service (Sample.pod "p1")], none⟩ := by
    show Sample.pair.walkFrom ∅ Sample.service = _
    rw [Store.walkFrom_of_ok (by decide +kernel) hservice]
    show (Sample.pair.explore _ [⟨Sample.pod "p1", hmpod⟩]).after _ = _
    rw [Store.explore_of_ok (by decide +kernel) hpod]
    show ((Sample.pair.explore _ [⟨Sample.service, hmservice⟩]).after _).after _ = _
    rw [Store.explore_of_visited (by decide +kernel), Store.explore]
    rfl
  have hisOk : ((Viewer.mk Sample.pair Sample.view).visit Sample.service false).isOk = true := by
    rw [visit, visitSelecting, hwalk]
    decide +kernel
  cases hgraph : (Viewer.mk Sample.pair Sample.view).visit Sample.service false with
  | error error => rw [hgraph] at hisOk; cases hisOk
  | ok graph =>
    obtain ⟨hnodes, hedges⟩ := visit_shows_reached _ hid hgraph
    refine ⟨graph, rfl, hnodes, (hedges _ _ (by decide)).1 ?_⟩
    have hspans : Sample.service.Spans true (Sample.pod "p1") "svc"
        "pods:7:default:7:apps/v1:10:ReplicaSet:3:web" :=
      Or.inl ⟨by decide +kernel, by decide +kernel⟩
    exact ⟨_, _, _, .start, hservice, List.mem_cons_self, hspans⟩

end Viewer

end ClusterGraph
