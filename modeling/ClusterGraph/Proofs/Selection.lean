import ClusterGraph.Proofs.Recording.Controllers
import ClusterGraph.Proofs.Recording.Groups
import ClusterGraph.Proofs.Recording.Quotient
import ClusterGraph.Proofs.Traversal.Once
import ClusterGraph.Proofs.Viewer

/-!
# The highlighted node

Which node is highlighted is looked up in the recording, apart from the nodes themselves: for the
identifier of a processed pod it is the group of the pod, and any other identifier stands for itself. That
the graph has such a node takes two things:

* **`Recording.shows_iff_processed`** — where no identifier is processed twice, the object that a recording
  keeps under it is the one that was processed, whatever else the calls mention under it. So it is for the
  start of a walk, which is processed first.
* **`Recording.visibleId?_eq_selection`** — for an object that is shown, the identifier that is looked up is
  that of the node that shows it.

Together:

* **`selects_shown_node`** — the graph around an object highlights the object or its group.
-/

namespace ClusterGraph

namespace Call

/-- Some call has the object processed. -/
def Processed (calls : List Call) (object : Object) : Prop :=
  ∃ call ∈ calls, call.Processes object

/-- No two objects are processed under one identifier. -/
def Distinct (calls : List Call) : Prop :=
  ∀ a b, Processed calls a → Processed calls b → a.id = b.id → a = b

variable {calls : List Call} {object : Object}

theorem processed_append_singleton {call : Call} :
    Processed (calls ++ [call]) object ↔ Processed calls object ∨ call.Processes object := by
  simp only [Processed, List.mem_append, List.mem_singleton]
  constructor
  · rintro ⟨c, hm | rfl, hp⟩
    · exact Or.inl ⟨c, hm, hp⟩
    · exact Or.inr hp
  · rintro (⟨c, hm, hp⟩ | hp)
    · exact ⟨c, Or.inl hm, hp⟩
    · exact ⟨call, Or.inr rfl, hp⟩

theorem Distinct.of_append {more : List Call} (h : Distinct (calls ++ more)) : Distinct calls := by
  rintro a b ⟨ca, ha, hpa⟩ ⟨cb, hb, hpb⟩
  exact h a b ⟨ca, List.mem_append_left _ ha, hpa⟩ ⟨cb, List.mem_append_left _ hb, hpb⟩

theorem processed_iff_mem (haccepted : ∀ call ∈ calls, call.IsAccepted) :
    Processed calls object ↔ .process object ∈ calls := by
  constructor
  · rintro ⟨call, hm, -, rfl⟩
    exact hm
  · exact fun hm => ⟨_, hm, haccepted _ hm, rfl⟩

end Call

namespace Recording

variable {grouping : Bool} {recording : Recording} {calls : List Call} {object : Object}

/-! ## What is kept for a processed object

Processing an object puts it in place of whatever was kept under its identifier, and a relation only fills
places that are empty. So the object that is kept is the last one processed, and the only one where
identifiers are not processed twice. -/

theorem getElem?_objects_of_distinct (hd : Call.Distinct calls) (hp : Call.Processed calls object) :
    (absorbAll grouping calls).objects[object.id]? = some object := by
  -- the induction is on the calls from the last one back: only another object that is processed could
  -- take the place of this one
  induction calls using List.reverseRecOn with
  | nil =>
    obtain ⟨call, hm, -⟩ := hp
    cases hm
  | append_singleton calls call ih =>
    rw [absorbAll_append, List.foldl_cons, List.foldl_nil]
    rw [Call.processed_append_singleton] at hp
    rcases absorb_cases grouping (absorbAll grouping calls) call with
      ⟨heq, hnone⟩ | ⟨noted, hn, heq⟩ | ⟨first, second, hr, heq⟩ <;> rw [heq]
    · exact ih hd.of_append (hp.resolve_right fun hp => hnone object (Or.inl hp))
    · rw [note, Dict.getElem?_insert]
      split
      · next hid =>
        have hnoted : Call.Processed (calls ++ [call]) noted :=
          Call.processed_append_singleton.2 (Or.inr hn)
        rw [hd noted object hnoted (Call.processed_append_singleton.2 hp) hid]
      · next hid =>
        refine ih hd.of_append (hp.resolve_right fun hp => hid ?_)
        rw [hn.unique hp]
    · have hold := ih hd.of_append (hp.resolve_right fun hp => hp.not_relates hr)
      rw [getElem?_objects_relate, hold]
      rfl

/-- **What a recording shows are the objects that were processed**, if no two were under one
identifier. -/
theorem shows_iff_processed (hd : Call.Distinct calls) :
    (absorbAll grouping calls).Shows object ↔ Call.Processed calls object := by
  constructor
  · rintro ⟨id, hid, ho⟩
    obtain ⟨call, hm, other, hp, rfl⟩ := mem_processed_absorbAll.1 hid
    have hother : Call.Processed calls other := ⟨call, hm, hp⟩
    rw [getElem?_objects_of_distinct hd hother] at ho
    exact Option.some.inj ho ▸ hother
  · intro hp
    obtain ⟨call, hm, hprocesses⟩ := hp
    have hid : object.id ∈ (absorbAll grouping calls).processed :=
      mem_processed_absorbAll.2 ⟨call, hm, object, hprocesses, rfl⟩
    exact ⟨object.id, hid, getElem?_objects_of_distinct hd ⟨call, hm, hprocesses⟩⟩

theorem occurs_of_shows (h : (absorbAll grouping calls).Shows object) : Call.Occurs calls object := by
  obtain ⟨id, -, ho⟩ := h
  obtain ⟨-, call, hm, hn⟩ := exists_noted_of_objects ho
  exact hn.occurs hm

/-! ## What is looked up

The lookup asks for the group of the object that is kept. It does not ask whether the object is hidden,
which is why the statement about the highlighted node leaves out those that are. -/

theorem selection_of_shows (hw : recording.WellFormed) (hs : recording.Shows object) :
    recording.selection grouping object.id =
      ((object.groupKey? grouping).map (·.nodeId)).getD object.id := by
  obtain ⟨id, hp, ho⟩ := hs
  obtain rfl : object.id = id := hw.id_eq ho
  rw [selection, if_pos (Std.ExtTreeSet.mem_iff_contains.1 hp), ho]
  rfl

/-- What no processed pod of a group has as its identifier stands for itself. -/
theorem selection_eq_self (hw : recording.WellFormed) {id : String}
    (h : ∀ pod, recording.Shows pod → pod.id = id → pod.groupKey? grouping = none) :
    recording.selection grouping id = id := by
  by_cases hp : id ∈ recording.processed
  · obtain ⟨object, ho⟩ := Dict.mem_iff_exists.1 (hw.processed hp)
    have hs : recording.Shows object := ⟨id, hp, ho⟩
    have hid : object.id = id := hw.id_eq ho
    rw [← hid, selection_of_shows hw hs, h object hs hid]
    rfl
  · rw [selection, if_neg fun hc => hp (Std.ExtTreeSet.mem_iff_contains.2 hc)]

/-- **An object that is shown is looked up as the node that shows it.** -/
theorem visibleId?_eq_selection (hw : recording.WellFormed) (hs : recording.Shows object)
    (hskip : object.isSkipped = false) :
    object.visibleId? grouping = some (recording.selection grouping object.id) := by
  rw [selection_of_shows hw hs, Object.visibleId?, if_neg (by simp [hskip])]

/-- The pods of a group are looked up as the group is, unless a processed object has its identifier. -/
theorem selection_of_group (hw : recording.WellFormed) {pod : Object} {key : PodGroupKey}
    (hapart : ∀ object, recording.Shows object → object.id ≠ key.nodeId) (hs : recording.Shows pod)
    (hk : pod.groupKey? grouping = some key) :
    recording.selection grouping pod.id = key.nodeId ∧
      recording.selection grouping key.nodeId = key.nodeId := by
  constructor
  · rw [selection_of_shows hw hs, hk]
    rfl
  · exact selection_eq_self hw fun object ho hid => absurd hid (hapart object ho)

/-! ## The node that is highlighted

`Highlights` says all that can be said of the node. For a trace it follows from what the recording shows,
what is looked up, and how the nodes are made. -/

theorem selected_of_graph {view : View} {selected : String} {graph : Graph}
    (h : recording.graph view selected = .ok graph) :
    graph.selected = recording.selection view.grouping selected := by
  obtain ⟨nodes, _, h⟩ := bind_eq_ok.1 h
  cases h
  rfl

end Recording

/-- The graph highlights the node that shows an object: the one rendered for the object itself, or the one
of its group, which is made of all processed pods with the same key, each of them once. -/
structure Highlights (view : View) (processed : List Object) (object : Object) (graph : Graph)
    (node : Node) : Prop where
  found : graph.selectedNode? = some node
  single : object.groupKey? view.grouping = none → graph.selected = object.id ∧
    NodeOutcome.ofObject view.resolver view.layout object = .rendered node
  grouped : ∀ key, object.groupKey? view.grouping = some key → graph.selected = key.nodeId ∧
    ∃ pods, object ∈ pods ∧ (pods.map Object.id).Nodup ∧
      (∀ pod, pod ∈ pods ↔ pod ∈ processed ∧ pod.groupKey? view.grouping = some key) ∧
      node = Node.ofPods view.resolver key.displayName pods

namespace Trace

variable {trace : Trace} {view : View} {start : Object} {graph : Graph}

theorem distinct_calls (haccepted : ∀ call ∈ trace.calls, call.IsAccepted)
    (honce : trace.processedIds.Nodup) : Call.Distinct trace.calls := by
  intro a b ha hb
  rw [Call.processed_iff_mem haccepted, ← mem_processed] at ha hb
  exact List.inj_on_of_nodup_map honce ha hb

/-- Where no identifier is processed twice, each processed object is highlighted when it is asked for. -/
theorem exists_highlights (haccepted : ∀ call ∈ trace.calls, call.IsAccepted)
    (honce : trace.processedIds.Nodup) (hstart : start ∈ trace.processed)
    (hskip : start.isSkipped = false)
    (hgraph : (Recording.absorbAll view.grouping trace.calls).graph view start.id = .ok graph) :
    ∃ node, Highlights view trace.processed start graph node := by
  have hw : (Recording.absorbAll view.grouping trace.calls).WellFormed :=
    (Recording.reachable_absorbAll view.grouping trace.calls).wellFormed
  have hshows : ∀ {object : Object},
      (Recording.absorbAll view.grouping trace.calls).Shows object ↔ object ∈ trace.processed := by
    intro object
    rw [Recording.shows_iff_processed (distinct_calls haccepted honce),
      Call.processed_iff_mem haccepted, mem_processed]
  have hs := hshows.2 hstart
  obtain ⟨hnodes, -⟩ := Recording.graph_eq_ok hgraph
  have hvisible : start.visibleId? view.grouping = some graph.selected := by
    rw [Recording.selected_of_graph hgraph]
    exact Recording.visibleId?_eq_selection hw hs hskip
  -- shown by itself the start has the node of the first pass, and in a group that of the second one
  cases hk : start.groupKey? view.grouping with
  | none =>
    have hid : start.id = graph.selected := Object.id_of_visibleId? hk hvisible
    obtain ⟨node, houtcome, hnode⟩ := Recording.getElem?_nodes_single hw hnodes hs hk hvisible
    refine ⟨node, hnode, fun _ => ⟨hid.symm, ?_⟩, fun key hk' => ?_⟩
    · cases ho : NodeOutcome.ofObject view.resolver view.layout start <;> rw [ho] at houtcome <;>
        cases houtcome
      rfl
    · rw [hk] at hk'
      cases hk'
  | some key =>
    have hid : key.nodeId = graph.selected := Object.nodeId_of_visibleId? hk hvisible
    have hfound := Recording.getElem?_nodes_group hnodes (Recording.mem_shownKeys.2 ⟨start, hs, hk⟩)
    rw [hid] at hfound
    refine ⟨_, hfound, fun hnone => ?_, fun key' hk' => ?_⟩
    · rw [hk] at hnone
      cases hnone
    · obtain rfl : key = key' := Option.some.inj (hk.symm.trans hk')
      refine ⟨hid.symm, _, Recording.mem_members.2 ⟨hs, hk⟩, Recording.nodup_members hw _ _,
        fun pod => ?_, rfl⟩
      rw [Recording.mem_members, hshows]

end Trace

namespace Recording

/-- A series of calls without an error is recorded whole. -/
theorem receiveAll_eq_ok {grouping : Bool} {calls : List Call} {recording next : Recording}
    (h : receiveAll recording grouping calls = .ok next) :
    (∀ call ∈ calls, call.IsAccepted) ∧ next = calls.foldl (absorb grouping) recording := by
  induction calls generalizing recording with
  | nil =>
    cases h
    exact ⟨fun call hm => absurd hm List.not_mem_nil, rfl⟩
  | cons call calls ih =>
    rw [receiveAll, List.foldlM_cons] at h
    obtain ⟨noted, hr, h⟩ := bind_eq_ok.1 h
    obtain ⟨haccepted, rfl⟩ := ih h
    refine ⟨fun other hm => ?_, ?_⟩
    · rcases List.mem_cons.1 hm with rfl | hm
      · -- a call that is refused would have been the end of the series
        by_contra hno
        obtain ⟨error, he⟩ := receive_of_not_isAccepted grouping recording hno
        rw [hr] at he
        cases he
      · exact haccepted other hm
    · rw [List.foldl_cons, absorb, hr]

theorem ofTrace_eq_ok {grouping : Bool} {trace : Trace} {recording : Recording}
    (h : ofTrace grouping trace = .ok recording) : trace.failure = none ∧
      (∀ call ∈ trace.calls, call.IsAccepted) ∧ recording = absorbAll grouping trace.calls := by
  unfold ofTrace at h
  cases hr : receiveAll {} grouping trace.calls with
  | error error => rw [hr] at h; cases h
  | ok next =>
    rw [hr] at h
    cases hf : trace.failure with
    | some error => rw [hf] at h; cases h
    | none =>
      rw [hf] at h
      cases h
      exact ⟨rfl, receiveAll_eq_ok hr⟩

end Recording

/-! ## The start comes first

The walk processes its start before it asks for relations, and a run of visits starts with one visit that
can do nothing else. Either way the start is among the processed objects. -/

theorem Store.start_mem_processed (store : Store) (start : Object) :
    start ∈ (store.walkFrom ∅ start).processed := by
  have hnew : start.id ∉ (∅ : Keys) := Std.ExtTreeSet.not_mem_empty
  rw [Trace.mem_processed]
  -- whether or not the relations are found, the first call has been made
  cases hr : store.relations start with
  | error error =>
    rw [walkFrom_of_error hnew hr]
    exact List.mem_cons_self
  | ok relations =>
    rw [walkFrom_of_ok hnew hr]
    exact List.mem_cons_self

namespace Exploration

variable {store : Store} {grouping : Bool} {start : Object} {state : Exploration}

/-- At first only the visit of the start can take a step. -/
theorem eq_pending_of_initial {visit : Visit} {rest : Multiset Visit}
    (hv : (initial start).visits = visit ::ₘ rest) : visit = .pending start :=
  ((Multiset.singleton_eq_cons_iff _).1 hv).1.symm

theorem Run.eq_initial_or_mem_calls (h : Run store grouping start state) :
    state = initial start ∨ .process start ∈ state.calls := by
  induction h with
  | refl => exact Or.inl rfl
  | tail hrun hs ih =>
    rcases ih with rfl | hm
    · -- nothing is marked yet, so that the first visit cannot be skipped
      cases hs with
      | skip _ hv hm => exact absurd hm Std.ExtTreeSet.not_mem_empty
      | enter _ hv =>
        cases eq_pending_of_initial hv
        exact Or.inr (by simp)
      | read _ hv => cases eq_pending_of_initial hv
      | fail _ hv => cases eq_pending_of_initial hv
      | report _ hv => cases eq_pending_of_initial hv
      | spread _ hv => cases eq_pending_of_initial hv
    · exact Or.inr (hs.extends.calls _ hm)

theorem CompleteRun.start_mem_processed (h : CompleteRun store grouping start state)
    (hf : state.failure = none) : start ∈ state.trace.processed := by
  rw [Trace.mem_processed]
  refine h.run.eq_initial_or_mem_calls.resolve_left fun heq => ?_
  -- the run has not ended where it began, for there a visit was left
  rcases stuck_iff.1 h.stuck with hfailed | hv
  · exact hfailed hf
  · rw [heq] at hv
    exact Multiset.singleton_ne_zero _ hv

end Exploration

/-! ## What is highlighted

A viewer's graph and that of a run of visits are made of the calls of a trace without failure, and
`Trace.exists_highlights` applies to both. -/

theorem Viewer.exists_highlights {viewer : Viewer} {start : Object} {cancelled : Bool} {graph : Graph}
    (h : viewer.visit start cancelled = .ok graph) (hskip : start.isSkipped = false) :
    ∃ node, Highlights viewer.view (viewer.store.walk start cancelled).processed start graph node := by
  cases cancelled with
  | true => cases h
  | false =>
    unfold Viewer.visit Viewer.visitSelecting at h
    cases ho : Recording.ofTrace viewer.view.grouping (viewer.store.walk start false) with
    | error error => rw [ho] at h; cases h
    | ok recording =>
      rw [ho] at h
      obtain ⟨-, haccepted, rfl⟩ := Recording.ofTrace_eq_ok ho
      exact Trace.exists_highlights haccepted (Store.explored_walkFrom viewer.store ∅ start).once
        (viewer.store.start_mem_processed start) hskip (mapError_eq_ok.1 h)

theorem Exploration.exists_highlights {store : Store} {view : View} {start : Object}
    {state : Exploration} {graph : Graph} (h : CompleteRun store view.grouping start state)
    (hf : state.failure = none) (hgraph : state.recording.graph view start.id = .ok graph)
    (hskip : start.isSkipped = false) :
    ∃ node, Highlights view state.trace.processed start graph node := by
  have hinv := h.run.invariant hf
  rw [hinv.recording] at hgraph
  exact Trace.exists_highlights hinv.accepted h.run.marked.once (h.start_mem_processed hf) hskip hgraph

/-- **The graph around an object highlights the object or its group.** Unless the start is a replica set
that is not shown, the graph that a viewer makes has the highlighted node, and so has the graph of every
run in which the visits take their steps side by side; it is the node rendered for the start itself or, for
a pod of a group, that of the group. In every recording the pods of a group are looked up as the group is,
if no processed object has its identifier, and whatever is not the identifier of a processed pod of a group
stands for itself. -/
theorem selects_shown_node :
    (∀ (viewer : Viewer) (start : Object) (cancelled : Bool) (graph : Graph),
      viewer.visit start cancelled = .ok graph → start.isSkipped = false →
      ∃ node, Highlights viewer.view (viewer.store.walk start cancelled).processed start graph node) ∧
    (∀ (store : Store) (view : View) (start : Object) (state : Exploration) (graph : Graph),
      Exploration.CompleteRun store view.grouping start state → state.failure = none →
      state.recording.graph view start.id = .ok graph → start.isSkipped = false →
      ∃ node, Highlights view state.trace.processed start graph node) ∧
    ∀ (grouping : Bool) (recording : Recording), Recording.Reachable grouping recording →
      (∀ pod key, recording.Shows pod → pod.groupKey? grouping = some key →
        (∀ object, recording.Shows object → object.id ≠ key.nodeId) →
        recording.selection grouping pod.id = key.nodeId ∧
          recording.selection grouping key.nodeId = key.nodeId) ∧
      ∀ id, (∀ pod, recording.Shows pod → pod.id = id → pod.groupKey? grouping = none) →
        recording.selection grouping id = id := by
  refine ⟨fun viewer start cancelled graph => Viewer.exists_highlights,
    fun store view start state graph => Exploration.exists_highlights,
    fun grouping recording hr => ⟨fun pod key hs hk hapart => ?_, fun id hid => ?_⟩⟩
  · exact Recording.selection_of_group hr.wellFormed hapart hs hk
  · exact Recording.selection_eq_self hr.wellFormed hid

/-- A pod of the replica set is the start: its group is highlighted, by the walk and by a run of visits. In
another recording a pod stands for the group as well, and the replica set for itself. -/
theorem selects_shown_node_of_pod :
    (∃ graph node, (Viewer.mk Sample.lone Sample.view).visit (Sample.pod "p1") false = .ok graph ∧
      graph.selectedNode? = some node ∧ graph.selected = Sample.group.nodeId) ∧
    (∃ state graph node, Exploration.CompleteRun Sample.lone true (Sample.pod "p1") state ∧
      state.recording.graph Sample.view (Sample.pod "p1").id = .ok graph ∧
      graph.selectedNode? = some node ∧ graph.selected = Sample.group.nodeId) ∧
    (Recording.absorbAll true Sample.adoption).selection true "p2" = Sample.group.nodeId ∧
      (Recording.absorbAll true Sample.adoption).selection true "rs" = "rs" := by
  obtain ⟨hvisit, hruns, hrecordings⟩ := selects_shown_node
  have hwalk : Sample.lone.walkFrom ∅ (Sample.pod "p1") = ⟨[.process (Sample.pod "p1")], none⟩ := by
    have hrelations : Sample.lone.relations (Sample.pod "p1") = .ok [] := rfl
    rw [Store.walkFrom_of_ok (by decide +kernel) hrelations]
    show (Sample.lone.explore _ []).after _ = _
    rw [Store.explore]
    rfl
  refine ⟨?_, ?_, ?_⟩
  · obtain ⟨graph, hgraph⟩ : ∃ graph,
        (Viewer.mk Sample.lone Sample.view).visit (Sample.pod "p1") false = .ok graph := by
      refine Sample.exists_eq_ok ?_
      rw [Viewer.visit, Viewer.visitSelecting_eq, hwalk]
      decide +kernel
    obtain ⟨node, h⟩ := hvisit _ _ _ _ hgraph (by decide)
    exact ⟨graph, node, hgraph, h.found, (h.grouped _ rfl).1⟩
  · -- the run that does as the walk does
    obtain ⟨state, hrun, hout⟩ :=
      Exploration.exists_complete_walk Sample.lone true (Sample.pod "p1")
    rw [hwalk, Exploration.outcome] at hout
    cases hf : state.failure with
    | some error => rw [hf] at hout; cases hout
    | none =>
      rw [hf] at hout
      obtain ⟨graph, hgraph⟩ :
          ∃ graph, state.recording.graph Sample.view (Sample.pod "p1").id = .ok graph := by
        refine Sample.exists_eq_ok ?_
        rw [Except.ok.inj hout]
        decide +kernel
      obtain ⟨node, h⟩ := hruns _ _ _ _ _ hrun hf hgraph (by decide)
      exact ⟨state, graph, node, hrun, hgraph, h.found, (h.grouped _ rfl).1⟩
  · obtain ⟨hgroup, hself⟩ := hrecordings true _ (Recording.reachable_absorbAll true Sample.adoption)
    have hpod : (Recording.absorbAll true Sample.adoption).Shows (Sample.pod "p2") :=
      ⟨"p2", by decide, rfl⟩
    have hoccurs := Recording.occurs_of_shows hpod
    constructor
    · refine (hgroup _ _ hpod rfl fun object ho => ?_).1
      exact Recording.groupsApart_adoption object _ _ (Recording.occurs_of_shows ho) hoccurs rfl
    · refine hself "rs" fun pod ho hid => ?_
      obtain ⟨call, hm, -, hin⟩ := Recording.occurs_of_shows ho
      have hknown := Recording.mem_of_adoption call hm pod hin
      simp only [List.mem_cons, List.not_mem_nil, or_false] at hknown
      rcases hknown with rfl | rfl | rfl
      · rfl
      · exact absurd hid (by decide)
      · exact absurd hid (by decide)

end ClusterGraph
