import ClusterGraph.Proofs.Recording.Nodes

/-!
# Groups as a quotient

The same calls, once with groups of pods and once without, where everything that has a relation is
processed as well. The two recordings differ in the direction of relations only
(`objects_eq_of_processed`, `related_iff`), and what is shown with groups is the image of what is shown
without them:

* **`connects_iff`** — two nodes are connected exactly if they are different and show the two ends of a
  recorded relation. What the ends are does not depend on the groups; which nodes show them does.
* **`grouping_is_quotient`** — so edges and nodes with groups are the images of those without, under the
  map from an object's identifier to that of the node that shows it; and all objects but the pods of
  groups have the same nodes.
-/

namespace ClusterGraph

/-- There is an edge between two nodes, in one direction or the other. -/
def AdjacencyList.Connects (edges : AdjacencyList) (u v : String) : Prop :=
  v ∈ edges.targets u ∨ u ∈ edges.targets v

theorem AdjacencyList.connects_dedup_iff {edges : AdjacencyList} {u v : String} :
    edges.dedup.Connects u v ↔ u ≠ v ∧ edges.Connects u v := by
  unfold Connects
  rw [mem_targets_dedup_iff, mem_targets_dedup_iff]
  constructor
  · rintro (⟨h, hne, -⟩ | ⟨h, hne, -⟩)
    · exact ⟨hne, Or.inl h⟩
    · exact ⟨hne.symm, Or.inr h⟩
  · rintro ⟨hne, h⟩
    -- of two opposite edges the one from the smaller identifier is left
    rcases lt_or_gt_of_ne hne with hlt | hlt <;> tauto

namespace Call

/-- Everything between which a relation is reported is also processed. -/
def EndsProcessed (calls : List Call) : Prop :=
  ∀ parent child, .edge parent child ∈ calls → .process parent ∈ calls ∧ .process child ∈ calls

variable {a b : Bool} {calls : List Call} {call : Call}

/-- A relation that is kept with groups is kept without them, and vice versa, if not in the same
direction. -/
theorem Relates.or_reversed {first second : Object} (h : call.Relates a first second) :
    call.Relates b first second ∨ call.Relates b second first := by
  obtain ⟨haccepted, hne, parent, child, rfl, ha⟩ := h
  have hends : (first, second) = (parent, child) ∨ (first, second) = (child, parent) :=
    ha ▸ Recording.orient_cases a parent child
  have hkept : Recording.orient b parent child = (first, second) ∨
      Recording.orient b parent child = (second, first) := by
    rcases hends with heq | heq <;> cases heq
    · exact Recording.orient_cases b first second
    · exact (Recording.orient_cases b second first).symm
  exact hkept.imp (fun ho => ⟨haccepted, hne, parent, child, rfl, ho⟩)
    fun ho => ⟨haccepted, hne.symm, parent, child, rfl, ho⟩

/-- Whatever is noted is processed, by this call or by another one. -/
theorem EndsProcessed.processes (h : EndsProcessed calls) (hm : call ∈ calls) {object : Object}
    (hn : call.Notes a object) : ∃ call ∈ calls, call.Processes object := by
  have haccepted : (Call.process object).IsAccepted := by
    intro o ho
    rw [List.mem_singleton.1 ho]
    exact hn.isAccepted object hn.mem_objects
  refine ⟨.process object, ?_, haccepted, rfl⟩
  cases call with
  | process o =>
    rw [List.mem_singleton.1 hn.mem_objects]
    exact hm
  | edge parent child =>
    obtain ⟨hparent, hchild⟩ := h parent child hm
    rcases List.mem_pair.1 hn.mem_objects with rfl | rfl
    · exact hparent
    · exact hchild

end Call

namespace Recording

variable {a b grouping : Bool} {calls : List Call} {recording : Recording} {u v : String}

/-! ## The same objects

A processed object takes the place of the one before it, in both recordings; an object that is only
mentioned in a relation is kept if there is none, and which of two comes first may differ. So the objects
agree where everything mentioned is processed as well. -/

theorem processed_absorbAll (a b : Bool) (calls : List Call) :
    (absorbAll a calls).processed = (absorbAll b calls).processed := by
  refine Std.ExtTreeSet.ext_mem fun id => ?_
  rw [mem_processed_absorbAll, mem_processed_absorbAll]

/-- Either recording refuses the object, or both put it in place of the one that they have. -/
theorem absorb_process (object : Object) :
    (∀ grouping recording, absorb grouping recording (.process object) = recording) ∨
      ∀ grouping recording, absorb grouping recording (.process object) = recording.note object := by
  by_cases h : (Call.process object).IsAccepted
  · refine Or.inr fun grouping recording => ?_
    rw [absorb, receive_process h]
  · refine Or.inl fun grouping recording => ?_
    obtain ⟨error, he⟩ := receive_of_not_isAccepted grouping recording h
    rw [absorb, he]

/-- A relation has nothing processed, and takes the place of no object. -/
theorem absorb_edge (grouping : Bool) (recording : Recording) (parent child : Object) :
    (absorb grouping recording (.edge parent child)).processed = recording.processed ∧
      ∀ id ∈ recording.objects,
        (absorb grouping recording (.edge parent child)).objects[id]? = recording.objects[id]? := by
  rcases absorb_cases grouping recording (.edge parent child) with
    ⟨heq, -⟩ | ⟨object, ⟨-, hp⟩, -⟩ | ⟨first, second, -, heq⟩
  · rw [heq]
    exact ⟨rfl, fun _ _ => rfl⟩
  · cases hp
  · rw [heq]
    refine ⟨rfl, fun id hm => ?_⟩
    obtain ⟨object, ho⟩ := Dict.mem_iff_exists.1 hm
    rw [getElem?_objects_relate, ho]
    rfl

/-- The object kept for a processed identifier is the one that was processed last. -/
theorem getElem?_objects_of_processed {id : String} (h : id ∈ (absorbAll a calls).processed) :
    (absorbAll a calls).objects[id]? = (absorbAll b calls).objects[id]? := by
  -- induction from the last call: a relation leaves alone what is processed, and processing settles it
  induction calls using List.reverseRecOn with
  | nil => rfl
  | append_singleton calls call ih =>
    rw [absorbAll_append, List.foldl_cons, List.foldl_nil] at h
    rw [absorbAll_append, absorbAll_append, List.foldl_cons, List.foldl_cons, List.foldl_nil,
      List.foldl_nil]
    cases call with
    | process object =>
      rcases absorb_process object with heq | heq
      · rw [heq] at h
        rw [heq, heq, ih h]
      · rw [heq, note] at h
        rw [heq, heq, note, note, Dict.getElem?_insert, Dict.getElem?_insert]
        split
        · rfl
        · rename_i hne
          refine ih ?_
          simpa [hne] using h
    | edge parent child =>
      obtain ⟨hprocessed, hobjects⟩ := absorb_edge a (absorbAll a calls) parent child
      obtain ⟨-, hobjects'⟩ := absorb_edge b (absorbAll b calls) parent child
      rw [hprocessed] at h
      -- what is processed has an object already, with groups and without them
      have hm := (reachable_absorbAll a calls).wellFormed.processed h
      have hm' := (reachable_absorbAll b calls).wellFormed.processed
        (processed_absorbAll a b calls ▸ h)
      rw [hobjects id hm, hobjects' id hm', ih h]

theorem mem_objects_iff_processed (h : Call.EndsProcessed calls) {id : String} :
    id ∈ (absorbAll a calls).objects ↔ id ∈ (absorbAll a calls).processed := by
  refine ⟨fun hm => ?_, (reachable_absorbAll a calls).wellFormed.processed⟩
  obtain ⟨call, hcall, object, hn, hid⟩ := mem_objects_absorbAll.1 hm
  obtain ⟨process, hm, hp⟩ := h.processes hcall hn
  exact mem_processed_absorbAll.2 ⟨process, hm, object, hp, hid⟩

/-- The objects do not depend on the groups. -/
theorem objects_eq_of_processed (h : Call.EndsProcessed calls) (a b : Bool) :
    (absorbAll a calls).objects = (absorbAll b calls).objects := by
  refine Std.ExtTreeMap.ext_getElem? fun id => ?_
  by_cases hp : id ∈ (absorbAll a calls).processed
  · exact getElem?_objects_of_processed hp
  · have hp' : id ∉ (absorbAll b calls).processed := processed_absorbAll a b calls ▸ hp
    rw [← mem_objects_iff_processed h] at hp hp'
    rw [Std.ExtTreeMap.getElem?_eq_none hp, Std.ExtTreeMap.getElem?_eq_none hp']

/-! ## The same relations, up to their direction

Grouping changes which end of a relation is put first, and nothing else about it. -/

/-- There is a recorded relation between the objects of two identifiers. -/
def Related (recording : Recording) (s t : String) : Prop :=
  t ∈ recording.targets s ∨ s ∈ recording.targets t

theorem related_iff {s t : String} :
    (absorbAll a calls).Related s t ↔ (absorbAll b calls).Related s t := by
  -- one direction for any two settings, so that the other one is the same fact
  have hone : ∀ (a b : Bool) {s t : String}, t ∈ (absorbAll a calls).targets s →
      (absorbAll b calls).Related s t := by
    intro a b s t ht
    obtain ⟨call, hm, first, second, hr, rfl, rfl⟩ := mem_targets_absorbAll.1 ht
    rcases hr.or_reversed (b := b) with hr | hr
    · exact Or.inl (mem_targets_absorbAll.2 ⟨call, hm, first, second, hr, rfl, rfl⟩)
    · exact Or.inr (mem_targets_absorbAll.2 ⟨call, hm, second, first, hr, rfl, rfl⟩)
  constructor
  · exact fun h => h.elim (hone a b) fun h => (hone a b h).symm
  · exact fun h => h.elim (hone b a) fun h => (hone b a h).symm

/-! ## What is shown

`shownAs?` is the map of the quotient. Edges and nodes are first described through it for a single
recording; the two recordings meet in the next section. -/

/-- The identifier of the node that shows the object of an identifier. -/
def shownAs? (recording : Recording) (grouping : Bool) (id : String) : Option String :=
  recording.objects[id]?.bind (·.visibleId? grouping)

theorem shownAs?_of_objects {id : String} {object : Object}
    (h : recording.objects[id]? = some object) :
    recording.shownAs? grouping id = object.visibleId? grouping := by
  rw [shownAs?, h]
  rfl

theorem joins_iff :
    recording.Joins grouping u v ↔
      ∃ s t, recording.Related s t ∧ recording.shownAs? grouping s = some u ∧
        recording.shownAs? grouping t = some v := by
  unfold Joins Related shownAs?
  simp only [mem_relations, Option.bind_eq_some_iff]
  constructor
  · rintro ⟨parent, child, ⟨s, t, ht, hs, hc⟩, ⟨hu, hv⟩ | ⟨hv, hu⟩⟩
    · exact ⟨s, t, Or.inl ht, ⟨parent, hs, hu⟩, ⟨child, hc, hv⟩⟩
    · exact ⟨t, s, Or.inr ht, ⟨child, hc, hu⟩, ⟨parent, hs, hv⟩⟩
  · rintro ⟨s, t, ht | ht, ⟨x, hx, hu⟩, ⟨y, hy, hv⟩⟩
    · exact ⟨x, y, ⟨s, t, ht, hx, hy⟩, Or.inl ⟨hu, hv⟩⟩
    · exact ⟨y, x, ⟨t, s, ht, hy, hx⟩, Or.inr ⟨hv, hu⟩⟩

theorem connects_adjacencyList_iff :
    (recording.adjacencyList grouping).Connects u v ↔
      u ≠ v ∧ recording.Joins grouping u v ∧
        u ∈ recording.visibleIds grouping ∧ v ∈ recording.visibleIds grouping := by
  unfold adjacencyList
  rw [AdjacencyList.connects_dedup_iff]
  refine and_congr_right fun huv => ?_
  exact shownEdges_connect_iff huv

/-- **Two nodes are connected exactly if they are different and show the two ends of a relation.** -/
theorem connects_iff (h : Call.EndsProcessed calls) :
    ((absorbAll grouping calls).adjacencyList grouping).Connects u v ↔
      u ≠ v ∧ ∃ s t, (absorbAll grouping calls).Related s t ∧
        (absorbAll grouping calls).shownAs? grouping s = some u ∧
        (absorbAll grouping calls).shownAs? grouping t = some v := by
  have hvisible : ∀ {s w : String}, (absorbAll grouping calls).shownAs? grouping s = some w →
      w ∈ (absorbAll grouping calls).visibleIds grouping := by
    intro s w hs
    obtain ⟨object, ho, hw⟩ := Option.bind_eq_some_iff.1 hs
    have hp : s ∈ (absorbAll grouping calls).processed :=
      (mem_objects_iff_processed h).1 (Dict.mem_iff_exists.2 ⟨object, ho⟩)
    exact mem_visibleIds.2 ⟨object, ⟨s, hp, ho⟩, hw⟩
  rw [connects_adjacencyList_iff, joins_iff]
  refine and_congr_right fun _ => ⟨And.left, fun hjoined => ⟨hjoined, ?_⟩⟩
  obtain ⟨s, t, -, hs, ht⟩ := hjoined
  exact ⟨hvisible hs, hvisible ht⟩

/-- Without groups the same objects are shown, each under its own identifier. -/
theorem shownAs?_false (hw : recording.WellFormed) (id : String) :
    recording.shownAs? false id = (recording.shownAs? true id).map fun _ => id := by
  unfold shownAs?
  cases ho : recording.objects[id]? with
  | none => rfl
  | some object =>
    have hid : object.id = id := hw.id_eq ho
    simp only [Option.bind_some, Object.visibleId?]
    -- a hidden object is hidden either way, and another one has its own identifier without groups
    cases object.isSkipped with
    | true => rfl
    | false => simp [hid, Object.groupKey?]

theorem mem_visibleIds_iff_shownAs? :
    u ∈ recording.visibleIds grouping ↔
      ∃ id ∈ recording.processed, recording.shownAs? grouping id = some u := by
  rw [mem_visibleIds]
  constructor
  · rintro ⟨object, ⟨id, hp, ho⟩, hu⟩
    exact ⟨id, hp, Option.bind_eq_some_iff.2 ⟨object, ho, hu⟩⟩
  · rintro ⟨id, hp, hu⟩
    obtain ⟨object, ho, hu⟩ := Option.bind_eq_some_iff.1 hu
    exact ⟨object, ⟨id, hp, ho⟩, hu⟩

theorem getElem?_nodes_single {view : View} {nodes : Dict Node} (hw : recording.WellFormed)
    (hok : recording.nodes view = .ok nodes) {object : Object} (hs : recording.Shows object)
    (hk : object.groupKey? view.grouping = none) (hu : object.visibleId? view.grouping = some u) :
    ∃ node, (NodeOutcome.ofObject view.resolver view.layout object).node? = some node ∧
      nodes[u]? = some node := by
  obtain ⟨hnone, rfl, hnd⟩ := nodes_eq_ok hok
  obtain ⟨node, hnode, hm⟩ := exists_mem_singleNodes hw hnone hs hk hu
  exact ⟨node, hnode, (Dict.getElem?_ofEntries hnd).2 (List.mem_append_left _ hm)⟩

/-! ## The quotient

Both recordings keep the same objects and, up to direction, the same relations. An edge with groups comes
from a relation, whose ends are nodes without groups; those are connected there, and the map sends them to
the ends of the edge. -/

section Quotient

variable (h : Call.EndsProcessed calls)

include h

/-- Exactly what is shown with groups is shown without them, as itself. -/
theorem shownAs?_false_eq_some_iff {id w : String} :
    (absorbAll false calls).shownAs? false id = some w ↔
      id = w ∧ ∃ u, (absorbAll true calls).shownAs? true id = some u := by
  have hobjects : (absorbAll false calls).shownAs? true id = (absorbAll true calls).shownAs? true id := by
    rw [shownAs?, shownAs?, objects_eq_of_processed h true false]
  rw [shownAs?_false (reachable_absorbAll false calls).wellFormed, hobjects, Option.map_eq_some_iff]
  exact ⟨fun ⟨u, hu, hid⟩ => ⟨hid, u, hu⟩, fun ⟨hid, u, hu⟩ => ⟨u, hu, hid⟩⟩

/-- The pairs of connected nodes, apart from loops, are the images of those without groups. -/
theorem connects_iff_image :
    ((absorbAll true calls).adjacencyList true).Connects u v ↔
      u ≠ v ∧ ∃ p q, ((absorbAll false calls).adjacencyList false).Connects p q ∧
        (absorbAll true calls).shownAs? true p = some u ∧
        (absorbAll true calls).shownAs? true q = some v := by
  rw [connects_iff h]
  refine and_congr_right fun _ => ?_
  constructor
  · rintro ⟨s, t, hrelated, hs, ht⟩
    -- the ends of the relation are connected without groups, since they differ
    have hw : (absorbAll false calls).WellFormed := (reachable_absorbAll false calls).wellFormed
    have hrelated' : (absorbAll false calls).Related s t := related_iff.1 hrelated
    have hne : s ≠ t := hrelated'.elim (fun hm => (hw.ends hm).2.2) fun hm => (hw.ends hm).2.2.symm
    have hs' := (shownAs?_false_eq_some_iff h).2 ⟨rfl, u, hs⟩
    have ht' := (shownAs?_false_eq_some_iff h).2 ⟨rfl, v, ht⟩
    exact ⟨s, t, (connects_iff h).2 ⟨hne, s, t, hrelated', hs', ht'⟩, hs, ht⟩
  · rintro ⟨p, q, hconnects, hu, hv⟩
    obtain ⟨-, s, t, hrelated, hs, ht⟩ := (connects_iff h).1 hconnects
    obtain ⟨rfl, -⟩ := (shownAs?_false_eq_some_iff h).1 hs
    obtain ⟨rfl, -⟩ := (shownAs?_false_eq_some_iff h).1 ht
    exact ⟨s, t, related_iff.1 hrelated, hu, hv⟩

/-- The nodes are the images of those without groups. -/
theorem mem_visibleIds_iff_image :
    u ∈ (absorbAll true calls).visibleIds true ↔
      ∃ p ∈ (absorbAll false calls).visibleIds false,
        (absorbAll true calls).shownAs? true p = some u := by
  simp only [mem_visibleIds_iff_shownAs?, shownAs?_false_eq_some_iff h]
  rw [processed_absorbAll true false calls]
  constructor
  · rintro ⟨id, hp, hu⟩
    exact ⟨id, ⟨id, hp, rfl, u, hu⟩, hu⟩
  · rintro ⟨p, ⟨id, hp, rfl, -⟩, hu⟩
    exact ⟨id, hp, hu⟩

/-- An object that is no pod of a group has the same node with groups and without them. -/
theorem exists_same_node {resolver : StatusResolver} {layout : LinkResolver} {nodes nodes' : Dict Node}
    (hok : (absorbAll true calls).nodes ⟨true, resolver, layout⟩ = .ok nodes)
    (hok' : (absorbAll false calls).nodes ⟨false, resolver, layout⟩ = .ok nodes') {object : Object}
    (hs : (absorbAll false calls).Shows object) (hk : object.groupKey? true = none) :
    object.visibleId? true = object.visibleId? false ∧
      ∀ u, object.visibleId? true = some u →
        ∃ node, nodes[u]? = some node ∧ nodes'[u]? = some node := by
  have hk' : object.groupKey? false = none := rfl
  have hvisible : object.visibleId? true = object.visibleId? false := by
    rw [Object.visibleId?, Object.visibleId?, hk, hk']
  have hs' : (absorbAll true calls).Shows object := by
    rw [Shows, processed_absorbAll true false calls, objects_eq_of_processed h true false]
    exact hs
  refine ⟨hvisible, fun u hu => ?_⟩
  obtain ⟨node, hnode, hget⟩ :=
    getElem?_nodes_single (reachable_absorbAll true calls).wellFormed hok hs' hk hu
  obtain ⟨node', hnode', hget'⟩ :=
    getElem?_nodes_single (reachable_absorbAll false calls).wellFormed hok' hs hk' (hvisible ▸ hu)
  rw [hnode] at hnode'
  cases hnode'
  exact ⟨node, hget, hget'⟩

end Quotient

/-- **What is shown with groups is the image of what is shown without them.** The map takes the identifier
of an object to that of the node that shows it where pods are grouped. Two nodes are connected exactly if
they are different and are the images of two connected ones; the nodes are the images of the nodes; and an
object that is no pod of a group has the same node under the same identifier. -/
theorem grouping_is_quotient (calls : List Call) (h : Call.EndsProcessed calls)
    (resolver : StatusResolver) (layout : LinkResolver) :
    let grouped := absorbAll true calls
    let single := absorbAll false calls
    (∀ u v, (grouped.adjacencyList true).Connects u v ↔
      u ≠ v ∧ ∃ p q, (single.adjacencyList false).Connects p q ∧
        grouped.shownAs? true p = some u ∧ grouped.shownAs? true q = some v) ∧
    ∀ nodes nodes', grouped.nodes ⟨true, resolver, layout⟩ = .ok nodes →
      single.nodes ⟨false, resolver, layout⟩ = .ok nodes' →
      (∀ u, u ∈ nodes ↔ ∃ p ∈ nodes', grouped.shownAs? true p = some u) ∧
      ∀ object, single.Shows object → object.groupKey? true = none →
        object.visibleId? true = object.visibleId? false ∧
        ∀ u, object.visibleId? true = some u →
          ∃ node, nodes[u]? = some node ∧ nodes'[u]? = some node := by
  intro grouped single
  -- edges, nodes and the nodes that are the same have a lemma each
  refine ⟨fun u v => connects_iff_image h, fun nodes nodes' hok hok' => ⟨fun u => ?_, ?_⟩⟩
  · rw [mem_nodes_iff (reachable_absorbAll true calls).wellFormed hok, mem_visibleIds_iff_image h]
    simp only [mem_nodes_iff (reachable_absorbAll false calls).wellFormed hok']
    rfl
  · exact fun object hs hk => exists_same_node h hok hok' hs hk

/-- A replica set, two pods of it, and a service that picks one of them: the edge to the service comes from
a pod without groups, and from the group with them. -/
theorem grouping_is_quotient_of_service :
    let calls := [.edge Sample.service (Sample.pod "p1"), .process Sample.service,
      .process (Sample.pod "p1"), .edge (Sample.pod "p2") Sample.replicaSet,
      .process (Sample.pod "p2"), .process Sample.replicaSet]
    let group := "pods:7:default:7:apps/v1:10:ReplicaSet:3:web"
    Call.EndsProcessed calls ∧
    ((absorbAll true calls).adjacencyList true).Connects "svc" group ∧
    ∃ nodes nodes' node, (absorbAll true calls).nodes Sample.view = .ok nodes ∧
      (absorbAll false calls).nodes { Sample.view with grouping := false } = .ok nodes' ∧
      group ∈ nodes ∧ nodes["svc"]? = some node ∧ nodes'["svc"]? = some node := by
  intro calls group
  have hends : Call.EndsProcessed calls := by
    intro parent child hm
    simp only [calls, List.mem_cons, Call.edge.injEq, reduceCtorEq, List.not_mem_nil, or_false,
      false_or] at hm
    rcases hm with ⟨rfl, rfl⟩ | ⟨rfl, rfl⟩ <;> simp [calls]
  obtain ⟨hedges, hnodes⟩ :=
    grouping_is_quotient calls hends Sample.view.resolver Sample.view.layout
  have hp1 : (absorbAll true calls).shownAs? true "p1" = some group := by decide +kernel
  have hp2 : (absorbAll true calls).shownAs? true "p2" = some group := by decide +kernel
  have hservice : (absorbAll true calls).shownAs? true "svc" = some "svc" := by decide +kernel
  have hconnects : ((absorbAll false calls).adjacencyList false).Connects "svc" "p1" :=
    Or.inl (by decide +kernel)
  obtain ⟨nodes, hok⟩ : ∃ nodes, (absorbAll true calls).nodes Sample.view = .ok nodes :=
    Sample.exists_eq_ok (by decide +kernel)
  obtain ⟨nodes', hok'⟩ :
      ∃ nodes, (absorbAll false calls).nodes { Sample.view with grouping := false } = .ok nodes :=
    Sample.exists_eq_ok (by decide +kernel)
  obtain ⟨himage, hsame⟩ := hnodes nodes nodes' hok hok'
  have hs : (absorbAll false calls).Shows Sample.service := ⟨"svc", by decide +kernel, by rfl⟩
  obtain ⟨-, hnode⟩ := hsame Sample.service hs (by decide)
  obtain ⟨node, hget, hget'⟩ := hnode "svc" (by decide)
  have hp2' : "p2" ∈ nodes' := by
    rw [mem_nodes_iff (reachable_absorbAll false calls).wellFormed hok']
    decide +kernel
  exact ⟨hends, (hedges _ _).2 ⟨by decide, "svc", "p1", hconnects, hservice, hp1⟩, nodes, nodes',
    node, hok, hok', (himage group).2 ⟨"p2", hp2', hp2⟩, hget, hget'⟩

end Recording

end ClusterGraph
