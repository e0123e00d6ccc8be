import ClusterGraph.Proofs.Graph.PodGroup
import ClusterGraph.Proofs.Recording.Nodes

/-!
# What the node of a group tells of its pods

* **`group_covers_iff`** — the node of a group tells of all the processed pods with its key exactly if
  their names are pairwise different.
* **`not_forall_group_as_bad_as_worst`** — a pod in a bad state goes unnoticed when a later one of the
  same group has its name.
-/

namespace ClusterGraph.Recording

variable {grouping : Bool} {recording : Recording}

/-! ## The members of a group

The members are found among the objects that are kept under processed identifiers. As an object is kept
under its own identifier, none of them is there twice. -/

theorem mem_members {key : PodGroupKey} {pod : Object} :
    pod ∈ recording.members grouping key ↔
      recording.Shows pod ∧ pod.groupKey? grouping = some key := by
  unfold members
  rw [List.mem_filter, List.mem_map, beq_iff_eq]
  refine and_congr_left fun _ => ?_
  constructor
  · rintro ⟨⟨id, object⟩, hm, rfl⟩
    exact ⟨id, mem_processedObjects.1 hm⟩
  · rintro ⟨id, hm⟩
    exact ⟨(id, pod), mem_processedObjects.2 hm, rfl⟩

/-- Each processed pod is a member once. -/
theorem nodup_members (hw : recording.WellFormed) (grouping : Bool) (key : PodGroupKey) :
    ((recording.members grouping key).map Object.id).Nodup := by
  have hids : (recording.processedObjects.map (·.2)).Pairwise fun a b => a.id ≠ b.id := by
    rw [List.pairwise_map]
    refine (pairwise_processedObjects recording).imp_of_mem fun {a b} ha hb hne => ?_
    -- objects are kept under their own identifiers
    rw [hw.id_eq (mem_processedObjects.1 ha).2, hw.id_eq (mem_processedObjects.1 hb).2]
    exact hne
  unfold members
  rw [List.Nodup, List.pairwise_map]
  exact hids.filter _

/-! ## The node of a group

The node is made from the list of members, and `Node.ofPods_covers_iff` says what such a node tells of a
list of pods. It goes by names, and nothing keeps two pods of one group from having the same name: pods
that have only a name prefix all have that prefix for a name. -/

theorem getElem?_nodes_group {view : View} {nodes : Dict Node} (h : recording.nodes view = .ok nodes)
    {key : PodGroupKey} (hkey : key ∈ recording.shownKeys view.grouping) :
    nodes[key.nodeId]? =
      some (Node.ofPods view.resolver key.displayName (recording.members view.grouping key)) := by
  obtain ⟨-, rfl, hnd⟩ := nodes_eq_ok h
  rw [Dict.getElem?_ofEntries hnd, nodeEntries, List.mem_append]
  exact Or.inr (List.mem_map.2 ⟨key, mem_groupKeys.2 hkey, rfl⟩)

/-- **The node of a group tells of all its pods exactly if their names are pairwise different**: it is
then as bad as the worst of them, has one entry for each, and counts them. Its pods are all processed
ones with the key of the group, each of them once. -/
theorem group_covers_iff (view : View) (h : Reachable view.grouping recording) {nodes : Dict Node}
    (hok : recording.nodes view = .ok nodes) {key : PodGroupKey}
    (hkey : key ∈ recording.shownKeys view.grouping) :
    let pods := recording.members view.grouping key
    (∀ pod, pod ∈ pods ↔ recording.Shows pod ∧ pod.groupKey? view.grouping = some key) ∧
      (pods.map Object.id).Nodup ∧
      ∃ node, nodes[key.nodeId]? = some node ∧
        (node.Covers view.resolver pods ↔ (pods.map Object.nameAny).Nodup) := by
  intro pods
  refine ⟨fun _ => mem_members, nodup_members h.wellFormed view.grouping key, ?_⟩
  exact ⟨_, getElem?_nodes_group hok hkey, Node.ofPods_covers_iff _ _ _⟩

/-- Three pods of one group, one of them in a bad state and one of unknown state. -/
theorem group_covers_iff_of_alarm :
    let recording := absorbAll true [.process (Sample.pod "p1"), .process (Sample.pod "p2"),
      .process (Sample.pod "p3"), .process Sample.replicaSet]
    let key : PodGroupKey := ⟨"default", "apps/v1", "ReplicaSet", "web"⟩
    ∃ nodes node, recording.nodes Sample.alarm = .ok nodes ∧ nodes[key.nodeId]? = some node ∧
      node.Covers Sample.alarm.resolver (recording.members true key) := by
  intro recording key
  obtain ⟨nodes, hok⟩ : ∃ nodes, recording.nodes Sample.alarm = .ok nodes :=
    Sample.exists_eq_ok (by decide +kernel)
  have hkey : key ∈ recording.shownKeys true := by decide +kernel
  have hnames : ((recording.members true key).map Object.nameAny).Nodup := by decide +kernel
  obtain ⟨-, -, node, hnode, hcovers⟩ :=
    group_covers_iff Sample.alarm (reachable_absorbAll true _) hok hkey
  exact ⟨nodes, node, hok, hnode, hcovers.2 hnames⟩

/-- Two pods that are to get their names from one beginning: the one in a bad state goes unnoticed. -/
theorem not_forall_group_as_bad_as_worst :
    ¬ ∀ (view : View) (recording : Recording) (nodes : Dict Node) (key : PodGroupKey),
      Reachable view.grouping recording → recording.nodes view = .ok nodes →
      key ∈ recording.shownKeys view.grouping →
      ∃ node, nodes[key.nodeId]? = some node ∧
        node.status = NodeStatus.worstOf ((recording.members view.grouping key).map fun pod =>
          (view.resolver.orOk pod).status) := by
  intro hall
  let recording := absorbAll true [.process (Sample.unnamed "p1"), .process (Sample.unnamed "p2")]
  let key : PodGroupKey := ⟨"default", "apps/v1", "ReplicaSet", "web"⟩
  obtain ⟨nodes, hok⟩ : ∃ nodes, recording.nodes Sample.alarm = .ok nodes :=
    Sample.exists_eq_ok (by decide +kernel)
  have hkey : key ∈ recording.shownKeys true := by decide +kernel
  obtain ⟨node, hnode, hstatus⟩ :=
    hall Sample.alarm recording nodes key (reachable_absorbAll true _) hok hkey
  -- the node is computed from its two members, and only the later one has left an entry
  rw [getElem?_nodes_group hok hkey] at hnode
  cases hnode
  exact absurd hstatus (by decide +kernel)

end ClusterGraph.Recording
