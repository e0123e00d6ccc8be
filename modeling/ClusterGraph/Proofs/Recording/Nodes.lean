import ClusterGraph.Proofs.Dict
import ClusterGraph.Proofs.Recording.Edges
import ClusterGraph.Proofs.Recording.GroupKeys
import ClusterGraph.Proofs.Sample

/-!
# The nodes of a recording

The nodes are made in two passes, first the objects that are shown each by itself, then the groups of
pods. `nodeEntries` lists what both passes want to put in:

* **`nodes_cases`** — the nodes are the dictionary of these entries; or else some object has no link;
  or else an identifier is used by more than one entry, and that is the error.
* **`mem_keys_nodeEntries`** — the keys of the entries are the identifiers that edges know as visible
  (`Recording/Edges`), which are computed along another path.
-/

namespace ClusterGraph

namespace NodeOutcome

def node? : NodeOutcome → Option Node
  | rendered node => some node
  | _ => none

def failure? : NodeOutcome → Option GraphError
  | failed error => some error
  | _ => none

/-- An object without failure has a node unless it is skipped. -/
theorem isSome_node?_iff {resolver : StatusResolver} {layout : LinkResolver} {object : Object}
    (h : (ofObject resolver layout object).failure? = none) :
    (ofObject resolver layout object).node?.isSome = !object.isSkipped := by
  unfold ofObject at h ⊢
  by_cases hs : object.isSkipped = true
  · simp [hs, node?]
  · rw [if_neg hs] at h ⊢
    cases hl : layout object object.nameAny [] with
    | error error => rw [hl] at h; simp [failure?] at h
    | ok path => simp [node?, hs]

end NodeOutcome

namespace Recording

/-! ## What is put in

The entries of each pass, without regard to those that are there already. The order is that of the passes:
first the single objects by identifier, then the groups by key. -/

def singleNode? (view : View) (entry : String × Object) : Option (String × Node) :=
  (NodeOutcome.ofObject view.resolver view.layout entry.2).node?.map (entry.1, ·)

/-- The nodes of the objects that are shown each by itself. -/
def singleNodes (recording : Recording) (view : View) : List (String × Node) :=
  (recording.singles view.grouping).filterMap (singleNode? view)

def groupNode (recording : Recording) (view : View) (key : PodGroupKey) : String × Node :=
  (key.nodeId, Node.ofPods view.resolver key.displayName (recording.members view.grouping key))

def groupNodes (recording : Recording) (view : View) : List (String × Node) :=
  (recording.groupKeys view.grouping).map (recording.groupNode view)

/-- Everything that both passes put in. -/
def nodeEntries (recording : Recording) (view : View) : List (String × Node) :=
  recording.singleNodes view ++ recording.groupNodes view

/-- Why the node of an object cannot be made. -/
def singleFailure? (view : View) (entry : String × Object) : Option GraphError :=
  (NodeOutcome.ofObject view.resolver view.layout entry.2).failure?

/-! ## The two passes

The first pass overwrites nothing, because its identifiers are different; it can only fail over an object.
The second one looks whether an identifier is taken before it adds a group, and fails over that. For both
the induction carries the entries that have been put in so far. -/

theorem addSingle_ofEntries (view : View) (nodes : List (String × Node)) (entry : String × Object) :
    addSingle view (Dict.ofEntries nodes) entry =
      match singleFailure? view entry with
      | some error => .error error
      | none => .ok (Dict.ofEntries (nodes ++ (singleNode? view entry).toList)) := by
  unfold addSingle singleFailure? singleNode?
  cases NodeOutcome.ofObject view.resolver view.layout entry.2 with
  | rendered node => simp [NodeOutcome.node?, NodeOutcome.failure?, Dict.ofEntries_append_singleton]
  | skipped => simp [NodeOutcome.node?, NodeOutcome.failure?]
  | failed error => simp [NodeOutcome.failure?]

/-- The first pass ends with the first failure, or puts in all nodes that there are. -/
theorem foldlM_addSingle (view : View) (entries : List (String × Object)) :
    entries.foldlM (addSingle view) ∅ =
      match entries.findSome? (singleFailure? view) with
      | some error => .error error
      | none => .ok (Dict.ofEntries (entries.filterMap (singleNode? view))) := by
  -- induction from the end of the list: the last entry meets the outcome of all before it
  induction entries using List.reverseRecOn with
  | nil => rfl
  | append_singleton entries entry ih =>
    rw [List.foldlM_append, ih, List.findSome?_append]
    cases hf : entries.findSome? (singleFailure? view) with
    | some error => rfl
    | none =>
      show ([entry].foldlM (addSingle view) _ : Except GraphError (Dict Node)) = _
      rw [List.foldlM_cons, addSingle_ofEntries, Option.none_or]
      cases hs : singleFailure? view entry with
      | some error => simp only [List.findSome?_cons, hs]; rfl
      | none =>
        cases hn : singleNode? view entry <;>
          simp only [List.findSome?_cons, List.findSome?_nil, List.filterMap_append, hs, hn,
            List.filterMap_cons, List.filterMap_nil, Option.toList] <;> rfl

theorem addGroup_of_mem {recording : Recording} {view : View} {nodes : Dict Node}
    {key : PodGroupKey} (h : key.nodeId ∈ nodes) :
    addGroup recording view nodes key = .error (.duplicateNode key.nodeId) := by
  unfold addGroup
  rw [if_pos (Std.ExtTreeMap.mem_iff_contains.1 h)]

theorem addGroup_of_not_mem {recording : Recording} {view : View} {nodes : List (String × Node)}
    {key : PodGroupKey} (h : key.nodeId ∉ Dict.ofEntries nodes) :
    addGroup recording view (Dict.ofEntries nodes) key =
      .ok (Dict.ofEntries (nodes ++ [recording.groupNode view key])) := by
  unfold addGroup groupNode
  rw [if_neg fun hc => h (Std.ExtTreeMap.mem_iff_contains.2 hc), Dict.ofEntries_append_singleton]

/-- The second pass puts in all groups, unless an identifier is used twice. -/
theorem foldlM_addGroup (recording : Recording) (view : View) (keys : List PodGroupKey)
    (nodes : List (String × Node)) (hnd : (nodes.map Prod.fst).Nodup) :
    let all := nodes ++ keys.map (recording.groupNode view)
    (keys.foldlM (addGroup recording view) (Dict.ofEntries nodes) = .ok (Dict.ofEntries all) ∧
        (all.map Prod.fst).Nodup) ∨
      ∃ id, keys.foldlM (addGroup recording view) (Dict.ofEntries nodes) =
          .error (.duplicateNode id) ∧ 2 ≤ (all.map Prod.fst).count id := by
  -- induction on the keys, for whatever has been put in before under different identifiers
  induction keys generalizing nodes with
  | nil => exact Or.inl ⟨by simp; rfl, by simpa using hnd⟩
  | cons key rest ih =>
    intro all
    rw [List.foldlM_cons]
    by_cases hm : key.nodeId ∈ Dict.ofEntries nodes
    · -- the identifier of the group is taken: by an entry before it, and by the group itself
      refine Or.inr ⟨key.nodeId, by rw [addGroup_of_mem hm]; rfl, ?_⟩
      have hpos : 0 < (nodes.map Prod.fst).count key.nodeId :=
        List.count_pos_iff.2 (Dict.mem_ofEntries.1 hm)
      simp only [all, List.map_append, List.count_append, List.map_cons, List.count_cons, groupNode,
        beq_self_eq_true, if_true]
      omega
    · have hnew : key.nodeId ∉ nodes.map Prod.fst := fun h => hm (Dict.mem_ofEntries.2 h)
      have hnd' : ((nodes ++ [recording.groupNode view key]).map Prod.fst).Nodup := by
        rw [List.map_append]
        refine List.nodup_append.2 ⟨hnd, List.nodup_singleton _, fun a ha b hb heq => ?_⟩
        have hb : b = key.nodeId := List.mem_singleton.1 hb
        rw [heq, hb] at ha
        exact hnew ha
      have hall : all = (nodes ++ [recording.groupNode view key]) ++
          rest.map (recording.groupNode view) := by simp [all]
      rw [hall, addGroup_of_not_mem hm]
      exact ih (nodes ++ [recording.groupNode view key]) hnd'

/-! ## All nodes

`nodes_cases` puts the passes together and says which of the three outcomes there is; `nodes_eq_ok` is the
case that the other modules work with. -/

/-- The processed objects are listed under different identifiers. -/
theorem pairwise_processedObjects (recording : Recording) :
    recording.processedObjects.Pairwise fun a b => a.1 ≠ b.1 := by
  have hids : recording.processed.toList.Pairwise (· ≠ ·) :=
    Std.ExtTreeSet.distinct_toList.imp fun h heq => h (Std.LawfulEqCmp.compare_eq_iff_eq.2 heq)
  refine List.Pairwise.filterMap _ (fun id id' hne a ha b hb => ?_) hids
  obtain ⟨_, _, rfl⟩ := Option.map_eq_some_iff.1 ha
  obtain ⟨_, _, rfl⟩ := Option.map_eq_some_iff.1 hb
  exact hne

theorem nodup_singleNodes (recording : Recording) (view : View) :
    ((recording.singleNodes view).map Prod.fst).Nodup := by
  rw [List.Nodup, List.pairwise_map]
  have hsingles : (recording.singles view.grouping).Pairwise fun a b => a.1 ≠ b.1 :=
    (pairwise_processedObjects recording).filter _
  refine List.Pairwise.filterMap _ (fun entry entry' hne a ha b hb => ?_) hsingles
  obtain ⟨_, _, rfl⟩ := Option.map_eq_some_iff.1 ha
  obtain ⟨_, _, rfl⟩ := Option.map_eq_some_iff.1 hb
  exact hne

/-- **The nodes are all that the two passes put in**, or there is an error: an object cannot be linked
to, or an identifier is used more than once. -/
theorem nodes_cases (recording : Recording) (view : View) :
    (∃ entry ∈ recording.singles view.grouping, ∃ error,
        singleFailure? view entry = some error ∧ recording.nodes view = .error error) ∨
    (∀ entry ∈ recording.singles view.grouping, singleFailure? view entry = none) ∧
      (recording.nodes view = .ok (Dict.ofEntries (recording.nodeEntries view)) ∧
          ((recording.nodeEntries view).map Prod.fst).Nodup ∨
        ∃ id, recording.nodes view = .error (.duplicateNode id) ∧
          2 ≤ ((recording.nodeEntries view).map Prod.fst).count id) := by
  unfold nodes
  rw [foldlM_addSingle]
  -- the second pass only starts if no object has failed
  cases hf : (recording.singles view.grouping).findSome? (singleFailure? view) with
  | some error =>
    obtain ⟨entry, hm, he⟩ := List.exists_of_findSome?_eq_some hf
    exact Or.inl ⟨entry, hm, error, he, rfl⟩
  | none =>
    refine Or.inr ⟨List.findSome?_eq_none_iff.1 hf, ?_⟩
    exact foldlM_addGroup recording view (recording.groupKeys view.grouping)
      (recording.singleNodes view) (nodup_singleNodes recording view)

theorem nodes_eq_ok {recording : Recording} {view : View} {nodes : Dict Node}
    (h : recording.nodes view = .ok nodes) :
    (∀ entry ∈ recording.singles view.grouping, singleFailure? view entry = none) ∧
      nodes = Dict.ofEntries (recording.nodeEntries view) ∧
      ((recording.nodeEntries view).map Prod.fst).Nodup := by
  rcases nodes_cases recording view with ⟨_, _, _, _, he⟩ | ⟨hnone, ⟨hok, hnd⟩ | ⟨_, he, _⟩⟩
  · rw [h] at he
    cases he
  · rw [h] at hok
    cases hok
    exact ⟨hnone, rfl, hnd⟩
  · rw [h] at he
    cases he

/-! ## The keys are the visible identifiers

Where an object is shown is decided twice: here when its node is made, and by `visibleId?` when its edges
are. Both ask whether it belongs to a group and whether it is hidden, but not in the same order; the
identifiers come out the same. -/

theorem mem_singles {recording : Recording} {grouping : Bool} {id : String} {object : Object} :
    (id, object) ∈ recording.singles grouping ↔
      (id ∈ recording.processed ∧ recording.objects[id]? = some object) ∧
        object.groupKey? grouping = none := by
  unfold singles
  rw [List.mem_filter, mem_processedObjects]
  simp

theorem mem_shownKeys {recording : Recording} {grouping : Bool} {key : PodGroupKey} :
    key ∈ recording.shownKeys grouping ↔
      ∃ object, recording.Shows object ∧ object.groupKey? grouping = some key := by
  unfold shownKeys
  rw [List.mem_filterMap]
  constructor
  · rintro ⟨⟨id, object⟩, hm, hk⟩
    exact ⟨object, ⟨id, mem_processedObjects.1 hm⟩, hk⟩
  · rintro ⟨object, ⟨id, hm⟩, hk⟩
    exact ⟨(id, object), mem_processedObjects.2 hm, hk⟩

/-- The node of an object that is shown by itself is made of the object alone. -/
theorem exists_mem_singleNodes {recording : Recording} {view : View} (hw : recording.WellFormed)
    (hnone : ∀ entry ∈ recording.singles view.grouping, singleFailure? view entry = none)
    {object : Object} (hs : recording.Shows object) (hk : object.groupKey? view.grouping = none)
    {id : String} (hv : object.visibleId? view.grouping = some id) :
    ∃ node, (NodeOutcome.ofObject view.resolver view.layout object).node? = some node ∧
      (id, node) ∈ recording.singleNodes view := by
  obtain ⟨key, hp, ho⟩ := hs
  have hm : (key, object) ∈ recording.singles view.grouping := mem_singles.2 ⟨⟨hp, ho⟩, hk⟩
  have hskip : object.isSkipped = false := by
    by_contra hs
    simp [Object.visibleId?, hs] at hv
  have hiff := NodeOutcome.isSome_node?_iff (hnone _ hm)
  rw [hskip] at hiff
  obtain ⟨node, hn⟩ := Option.isSome_iff_exists.1 hiff
  rw [Object.visibleId?_of_groupKey?_none hk hskip, hw.id_eq ho] at hv
  obtain rfl : key = id := Option.some.inj hv
  refine ⟨node, hn, List.mem_filterMap.2 ⟨(key, object), hm, ?_⟩⟩
  exact Option.map_eq_some_iff.2 ⟨node, hn, rfl⟩

/-- An object that is shown by itself and not hidden is put in under its identifier. -/
theorem mem_keys_singleNodes {recording : Recording} {view : View} (hw : recording.WellFormed)
    (hnone : ∀ entry ∈ recording.singles view.grouping, singleFailure? view entry = none)
    {id : String} :
    id ∈ (recording.singleNodes view).map Prod.fst ↔
      ∃ object, recording.Shows object ∧ object.groupKey? view.grouping = none ∧
        object.visibleId? view.grouping = some id := by
  constructor
  · simp only [singleNodes, singleNode?, List.mem_map, List.mem_filterMap, Option.map_eq_some_iff]
    rintro ⟨_, ⟨⟨key, object⟩, hm, node, hn, rfl⟩, rfl⟩
    obtain ⟨⟨hp, ho⟩, hg⟩ := mem_singles.1 hm
    have hskip : object.isSkipped = false := by
      have hiff := NodeOutcome.isSome_node?_iff (hnone _ hm)
      rw [hn] at hiff
      simpa using hiff
    refine ⟨object, ⟨key, hp, ho⟩, hg, ?_⟩
    rw [Object.visibleId?_of_groupKey?_none hg hskip, hw.id_eq ho]
  · rintro ⟨object, hs, hg, hv⟩
    obtain ⟨node, -, hm⟩ := exists_mem_singleNodes hw hnone hs hg hv
    exact List.mem_map.2 ⟨(id, node), hm, rfl⟩

theorem mem_keys_groupNodes {recording : Recording} {view : View} {id : String} :
    id ∈ (recording.groupNodes view).map Prod.fst ↔
      ∃ object, recording.Shows object ∧ (object.groupKey? view.grouping).isSome ∧
        object.visibleId? view.grouping = some id := by
  simp only [groupNodes, List.map_map, List.mem_map, mem_groupKeys, mem_shownKeys]
  constructor
  · rintro ⟨key, ⟨object, hs, hk⟩, rfl⟩
    exact ⟨object, hs, by simp [hk], Object.visibleId?_of_groupKey? hk⟩
  · rintro ⟨object, hs, hk, hv⟩
    obtain ⟨key, hk⟩ := Option.isSome_iff_exists.1 hk
    rw [Object.visibleId?_of_groupKey? hk] at hv
    exact ⟨key, ⟨object, hs, hk⟩, Option.some.inj hv⟩

/-- Nodes are put in under the visible identifiers of the processed objects. -/
theorem mem_keys_nodeEntries {recording : Recording} {view : View} (hw : recording.WellFormed)
    (hnone : ∀ entry ∈ recording.singles view.grouping, singleFailure? view entry = none)
    {id : String} :
    id ∈ (recording.nodeEntries view).map Prod.fst ↔
      ∃ object, recording.Shows object ∧ object.visibleId? view.grouping = some id := by
  rw [nodeEntries, List.map_append, List.mem_append, mem_keys_singleNodes hw hnone,
    mem_keys_groupNodes]
  constructor
  · rintro (⟨object, hs, _, hv⟩ | ⟨object, hs, _, hv⟩) <;> exact ⟨object, hs, hv⟩
  · rintro ⟨object, hs, hv⟩
    cases hk : object.groupKey? view.grouping with
    | none => exact Or.inl ⟨object, hs, hk, hv⟩
    | some key => exact Or.inr ⟨object, hs, by simp [hk], hv⟩

/-- The keys of the nodes are the identifiers that edges know as visible. -/
theorem mem_nodes_iff {recording : Recording} {view : View} (hw : recording.WellFormed)
    {nodes : Dict Node} (h : recording.nodes view = .ok nodes) {id : String} :
    id ∈ nodes ↔ id ∈ recording.visibleIds view.grouping := by
  obtain ⟨hnone, rfl, _⟩ := nodes_eq_ok h
  rw [Dict.mem_ofEntries, mem_keys_nodeEntries hw hnone, mem_visibleIds]

theorem size_nodes {recording : Recording} {view : View} {nodes : Dict Node}
    (h : recording.nodes view = .ok nodes) :
    nodes.size = (recording.singleNodes view).length +
      (recording.shownKeys view.grouping).dedup.length := by
  obtain ⟨_, rfl, hnd⟩ := nodes_eq_ok h
  rw [Dict.size_ofEntries hnd, nodeEntries, List.length_append, groupNodes, List.length_map,
    length_groupKeys]

/-! ## Edges among the nodes

The last filter of a graph leaves out edges whose ends are no nodes. As the ends are visible identifiers
and these are the nodes, it has nothing to leave out. -/

/-- Where all ends of edges are nodes, and no source is without targets, nothing is filtered out. -/
theorem edgesAmong_eq_self {edges : AdjacencyList} {nodes : Dict Node}
    (hne : ∀ {source : String} {list : List String}, edges[source]? = some list → list ≠ [])
    (hends : ∀ {u v : String}, v ∈ edges.targets u → u ∈ nodes ∧ v ∈ nodes) :
    edgesAmong edges nodes = edges := by
  -- a source is kept with its list, as neither the source nor any target is missing
  refine Std.ExtTreeMap.ext_getElem? fun source => ?_
  unfold edgesAmong
  rw [Std.ExtTreeMap.getElem?_filterMap']
  cases hl : edges[source]? with
  | none => rfl
  | some list =>
    have hmem : ∀ target ∈ list, source ∈ nodes ∧ target ∈ nodes := fun target ht =>
      hends (by rw [AdjacencyList.targets, hl]; exact ht)
    have hkeep : list.filter nodes.contains = list :=
      List.filter_eq_self.2 fun target ht => Std.ExtTreeMap.mem_iff_contains.1 (hmem target ht).2
    obtain ⟨first, hfirst⟩ := List.exists_mem_of_ne_nil list (hne hl)
    have hsource : nodes.contains source = true :=
      Std.ExtTreeMap.mem_iff_contains.1 (hmem first hfirst).1
    have hempty : list.isEmpty = false := by simpa using hne hl
    simp only [Option.bind_some, hkeep, hsource, hempty]
    rfl

theorem mem_nodes_of_adjacencyList {recording : Recording} {view : View} {nodes : Dict Node}
    (hw : recording.WellFormed) (h : recording.nodes view = .ok nodes) {u v : String}
    (hv : v ∈ (recording.adjacencyList view.grouping).targets u) : u ∈ nodes ∧ v ∈ nodes := by
  rw [mem_nodes_iff hw h, mem_nodes_iff hw h]
  exact visible_of_adjacencyList hv

/-- So leaving out the edges without nodes leaves out none. -/
theorem edgesAmong_adjacencyList {recording : Recording} {view : View} {nodes : Dict Node}
    (hw : recording.WellFormed) (h : recording.nodes view = .ok nodes) :
    edgesAmong (recording.adjacencyList view.grouping) nodes =
      recording.adjacencyList view.grouping :=
  edgesAmong_eq_self AdjacencyList.ne_nil_of_dedup fun hv => mem_nodes_of_adjacencyList hw h hv

/-- **The nodes of a reachable recording are the visible identifiers of its processed objects**, and all
other parts of a graph agree with them:

* a replica set for which no replica is wanted, or not known to be, has no node;
* no entry takes the place of another one, so that there are as many nodes as objects shown each by
  itself and different group keys;
* every end of an edge is a node, and leaving out the other edges leaves out none.

When two entries have the same identifier, there are no nodes but an error that names it. -/
theorem nodes_eq_visible (view : View) {recording : Recording}
    (h : Reachable view.grouping recording) :
    (∀ nodes, recording.nodes view = .ok nodes →
      (∀ id, id ∈ nodes ↔
        ∃ object, recording.Shows object ∧ object.visibleId? view.grouping = some id) ∧
      (∀ object, recording.Shows object → object.isKind .replicaSet = true →
        (∀ n, object.desiredReplicas? = some n → n < 1) →
          object.visibleId? view.grouping = none) ∧
      (∀ id node, (id, node) ∈ recording.nodeEntries view → nodes[id]? = some node) ∧
      nodes.size = (recording.singleNodes view).length +
        (recording.shownKeys view.grouping).dedup.length ∧
      (∀ source targets, (recording.adjacencyList view.grouping)[source]? = some targets →
        source ∈ nodes ∧ ∀ target ∈ targets, target ∈ nodes) ∧
      edgesAmong (recording.adjacencyList view.grouping) nodes =
        recording.adjacencyList view.grouping) ∧
    ((∀ entry ∈ recording.singles view.grouping, singleFailure? view entry = none) →
      ¬ ((recording.nodeEntries view).map Prod.fst).Nodup →
      ∃ id, recording.nodes view = .error (.duplicateNode id) ∧
        2 ≤ ((recording.nodeEntries view).map Prod.fst).count id) := by
  have hw : recording.WellFormed := h.wellFormed
  refine ⟨fun nodes hok => ?_, fun hnone hdup => ?_⟩
  · refine ⟨fun id => ?_, fun object _ hkind hn => ?_, fun id node hm => ?_, size_nodes hok, ?_,
      edgesAmong_adjacencyList hw hok⟩
    · rw [mem_nodes_iff hw hok, mem_visibleIds]
    · exact Object.visibleId?_eq_none_iff.2 ⟨hkind, hn⟩
    · obtain ⟨_, rfl, hnd⟩ := nodes_eq_ok hok
      exact (Dict.getElem?_ofEntries hnd).2 hm
    · intro source targets hs
      have hmem : ∀ target ∈ targets, source ∈ nodes ∧ target ∈ nodes := fun target ht =>
        mem_nodes_of_adjacencyList hw hok (by rw [AdjacencyList.targets, hs]; exact ht)
      -- a source has at least one target, and so it is itself the end of an edge
      obtain ⟨first, hfirst⟩ :=
        List.exists_mem_of_ne_nil targets (AdjacencyList.ne_nil_of_dedup hs)
      exact ⟨(hmem first hfirst).1, fun target ht => (hmem target ht).2⟩
  · rcases nodes_cases recording view with ⟨entry, hm, error, he, _⟩ | ⟨_, ⟨_, hnd⟩ | hid⟩
    · rw [hnone entry hm] at he
      cases he
    · exact absurd hnd hdup
    · exact hid

/-- A replica set, two pods of it in one group, and a hidden replica set; and a pod beside a service that
has the identifier of its group. -/
theorem nodes_eq_visible_of_group :
    let calls := [.process Sample.replicaSet, .process (Sample.pod "p1"), .process (Sample.pod "p2"),
      .edge Sample.replicaSet (Sample.pod "p1"), .process Sample.idle]
    let clash := [.process (Sample.pod "p1"), .process Sample.clashing]
    (∃ nodes, (absorbAll true calls).nodes Sample.view = .ok nodes ∧ nodes.size = 1 + 1 ∧
      Sample.idle.id ∉ nodes ∧
      edgesAmong ((absorbAll true calls).adjacencyList true) nodes =
        (absorbAll true calls).adjacencyList true) ∧
    ∃ id, (absorbAll true clash).nodes Sample.view = .error (.duplicateNode id) := by
  intro calls clash
  refine ⟨?_, ?_⟩
  · obtain ⟨nodes, hok⟩ : ∃ nodes, (absorbAll true calls).nodes Sample.view = .ok nodes := by
      have hisOk : ((absorbAll true calls).nodes Sample.view).isOk = true := by decide +kernel
      cases hn : (absorbAll true calls).nodes Sample.view with
      | ok nodes => exact ⟨nodes, rfl⟩
      | error error => rw [hn] at hisOk; cases hisOk
    obtain ⟨hkeys, _, _, hsize, _, hsame⟩ :=
      (nodes_eq_visible Sample.view (reachable_absorbAll true calls)).1 nodes hok
    have hsingle : ((absorbAll true calls).singleNodes Sample.view).length = 1 := by decide +kernel
    have hgroups : ((absorbAll true calls).shownKeys true).dedup.length = 1 := by decide +kernel
    refine ⟨nodes, hok, ?_, ?_, hsame⟩
    · rw [hsize, hsingle]
      exact congrArg (1 + ·) hgroups
    · rw [hkeys, ← mem_visibleIds]
      decide +kernel
  · have hlinked : ∀ entry ∈ (absorbAll true clash).singles true,
        singleFailure? Sample.view entry = none := by decide +kernel
    have hdup : ¬ (((absorbAll true clash).nodeEntries Sample.view).map Prod.fst).Nodup := by
      decide +kernel
    obtain ⟨id, hid, _⟩ :=
      (nodes_eq_visible Sample.view (reachable_absorbAll true clash)).2 hlinked hdup
    exact ⟨id, hid⟩

end Recording

end ClusterGraph
