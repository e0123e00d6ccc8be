import Mathlib.Order.Basic
import ClusterGraph.Graph.Render
import ClusterGraph.Proofs.Dict
import ClusterGraph.Proofs.Sample

/-!
# The node of a group of pods

A group sums up its pods by their names. Two pods of one name come to a single entry, and what is known
of the first of them is lost.

* **`Node.ofPods_covers_iff`** — so the node of a group tells of all its pods, in its status, in its list
  and in its count, exactly if their names are pairwise different.
* **`PodStatus.getElem?_ofPods`** — in any case the entry of a name is that of the last pod that has it.
* **`Node.forall_perm_iff_agree`** — so the order of the pods only counts where pods of one name differ in
  what is known of them, and **`Node.same_node_in_any_order`** where no two have the same name it never does.
-/

namespace ClusterGraph

namespace NodeStatus

theorem worstOf_append_singleton (statuses : List NodeStatus) (status : NodeStatus) :
    worstOf (statuses ++ [status]) = (worstOf statuses).worst status := by
  simp [worstOf]

theorem severity_le_worstOf {statuses : List NodeStatus} {status : NodeStatus}
    (h : status ∈ statuses) : status.severity ≤ (worstOf statuses).severity := by
  -- the last grade is the one that `worst` takes in last
  induction statuses using List.reverseRecOn with
  | nil => cases h
  | append_singleton statuses last ih =>
    rw [worstOf_append_singleton, severity_worst]
    rcases List.mem_append.1 h with h | h
    · have := ih h
      omega
    · rw [List.mem_singleton.1 h]
      omega

theorem worstOf_eq_ok_or_mem (statuses : List NodeStatus) :
    worstOf statuses = ok ∨ worstOf statuses ∈ statuses := by
  induction statuses using List.reverseRecOn with
  | nil => exact Or.inl rfl
  | append_singleton statuses last ih =>
    rw [worstOf_append_singleton, worst]
    split
    · exact Or.inr (by simp)
    · exact ih.imp_right (List.mem_append_left _)

theorem severity_worstOf_le {a b : List NodeStatus} (h : ∀ status ∈ a, status ∈ b) :
    (worstOf a).severity ≤ (worstOf b).severity := by
  rcases worstOf_eq_ok_or_mem a with ha | ha
  · rw [ha]
    exact Nat.zero_le _
  · exact severity_le_worstOf (h _ ha)

/-- The worst of several grades depends neither on their order nor on how often each occurs. -/
theorem worstOf_eq_of_mem_iff {a b : List NodeStatus} (h : ∀ status, status ∈ a ↔ status ∈ b) :
    worstOf a = worstOf b := by
  apply severity_injective
  apply Nat.le_antisymm
  · exact severity_worstOf_le fun status hm => (h status).1 hm
  · exact severity_worstOf_le fun status hm => (h status).2 hm

end NodeStatus

namespace PodStatus

variable {resolver : StatusResolver} {pods : List Object}

/-- What a pod contributes to its group. -/
def summary (resolver : StatusResolver) (pod : Object) : PodSummary :=
  ⟨(resolver.orOk pod).details, (resolver.orOk pod).status⟩

theorem ofPods_eq (resolver : StatusResolver) (pods : List Object) :
    ofPods resolver pods =
      Dict.ofEntries (pods.map fun pod => (pod.nameAny, summary resolver pod)) := by
  unfold ofPods Dict.ofEntries
  rw [List.foldl_map]
  rfl

theorem map_fst_summaries (resolver : StatusResolver) (pods : List Object) :
    (pods.map fun pod => (pod.nameAny, summary resolver pod)).map Prod.fst =
      pods.map Object.nameAny := by
  rw [List.map_map]
  rfl

/-- The entry of a name is that of the last pod that has it. -/
theorem getElem?_ofPods (name : String) :
    (ofPods resolver pods)[name]? =
      (pods.reverse.find? (·.nameAny == name)).map (summary resolver) := by
  rw [ofPods_eq, Dict.getElem?_ofEntries_last, ← List.map_reverse, List.find?_map, Option.map_map]
  rfl

theorem size_ofPods : (ofPods resolver pods).size = (pods.map Object.nameAny).dedup.length := by
  rw [ofPods_eq, Dict.size_ofEntries_dedup, map_fst_summaries]

theorem size_ofPods_eq_length_iff :
    (ofPods resolver pods).size = pods.length ↔ (pods.map Object.nameAny).Nodup := by
  rw [size_ofPods]
  constructor
  · intro h
    -- there are as many entries as there are names without repetition
    have hlength : (pods.map Object.nameAny).dedup.length = (pods.map Object.nameAny).length := by
      rw [h, List.length_map]
    rw [← (List.dedup_sublist _).eq_of_length hlength]
    exact List.nodup_dedup _
  · intro h
    rw [h.dedup, List.length_map]

/-! ### Pods of one name

Each name has the entry of the last pod with that name. If pods of one name agree, it does not matter
which of them is the last, and the entries can be said without any order. -/

/-- Of all pods that have the same name the same is known. -/
def Agree (resolver : StatusResolver) (pods : List Object) : Prop :=
  ∀ a ∈ pods, ∀ b ∈ pods, a.nameAny = b.nameAny → summary resolver a = summary resolver b

theorem agree_of_nodup (resolver : StatusResolver) (h : (pods.map Object.nameAny).Nodup) :
    Agree resolver pods := by
  intro a ha b hb hname
  rw [List.inj_on_of_nodup_map h ha hb hname]

/-- Where they agree it does not matter which of them is the last. -/
theorem Agree.getElem?_ofPods_eq_some_iff (h : Agree resolver pods) {name : String}
    {entry : PodSummary} :
    (ofPods resolver pods)[name]? = some entry ↔
      ∃ pod ∈ pods, pod.nameAny = name ∧ summary resolver pod = entry := by
  rw [getElem?_ofPods, Option.map_eq_some_iff]
  constructor
  · rintro ⟨pod, hfind, rfl⟩
    have hname : pod.nameAny = name := by simpa using List.find?_some hfind
    exact ⟨pod, List.mem_reverse.1 (List.mem_of_find?_eq_some hfind), hname, rfl⟩
  · rintro ⟨pod, hpod, rfl, rfl⟩
    cases hfind : pods.reverse.find? (·.nameAny == pod.nameAny) with
    | none =>
      have hno := List.find?_eq_none.1 hfind pod (List.mem_reverse.2 hpod)
      exact absurd (beq_self_eq_true _) hno
    -- the entry is that of the last pod of the name, with which this one agrees
    | some last =>
      have hname : last.nameAny = pod.nameAny := by simpa using List.find?_some hfind
      have hlast : last ∈ pods := List.mem_reverse.1 (List.mem_of_find?_eq_some hfind)
      exact ⟨last, rfl, h last hlast pod hpod hname⟩

theorem Agree.ofPods_eq_of_perm {others : List Object} (h : Agree resolver pods)
    (hperm : pods.Perm others) : ofPods resolver pods = ofPods resolver others := by
  have hothers : Agree resolver others := fun a ha b hb =>
    h a (hperm.mem_iff.2 ha) b (hperm.mem_iff.2 hb)
  -- entry by entry: which pods there are does not depend on their order
  refine Std.ExtTreeMap.ext_getElem? fun name => Option.ext fun entry => ?_
  rw [h.getElem?_ofPods_eq_some_iff, hothers.getElem?_ofPods_eq_some_iff]
  simp only [hperm.mem_iff]

/-- The last of the pods always has its entry. -/
theorem getElem?_ofPods_last (front : List Object) (pod : Object) :
    (ofPods resolver (front ++ [pod]))[pod.nameAny]? = some (summary resolver pod) := by
  rw [getElem?_ofPods, List.reverse_append, List.reverse_singleton, List.singleton_append,
    List.find?_cons_of_pos (by simp)]
  rfl

/-! ### Pods of different names

Where no two pods have the same name they agree, and there is one entry for each of them: the entries tell
of all pods. -/

theorem getElem?_ofPods_eq_some_iff (h : (pods.map Object.nameAny).Nodup) {name : String}
    {entry : PodSummary} :
    (ofPods resolver pods)[name]? = some entry ↔
      ∃ pod ∈ pods, pod.nameAny = name ∧ summary resolver pod = entry :=
  (agree_of_nodup resolver h).getElem?_ofPods_eq_some_iff

/-- Where names are pairwise different, a group is as bad as the worst of its pods. -/
theorem status_ofPods (h : (pods.map Object.nameAny).Nodup) :
    (ofPods resolver pods).status =
      NodeStatus.worstOf (pods.map fun pod => (resolver.orOk pod).status) := by
  refine NodeStatus.worstOf_eq_of_mem_iff fun status => ?_
  rw [List.mem_map, List.mem_map]
  constructor
  · rintro ⟨⟨name, entry⟩, hm, rfl⟩
    rw [Std.ExtTreeMap.mem_toList_iff_getElem?_eq_some, getElem?_ofPods_eq_some_iff h] at hm
    obtain ⟨pod, hpod, -, rfl⟩ := hm
    exact ⟨pod, hpod, rfl⟩
  · rintro ⟨pod, hpod, rfl⟩
    refine ⟨(pod.nameAny, summary resolver pod), ?_, rfl⟩
    rw [Std.ExtTreeMap.mem_toList_iff_getElem?_eq_some, getElem?_ofPods_eq_some_iff h]
    exact ⟨pod, hpod, rfl, rfl⟩

end PodStatus

namespace Node

/-- The node tells of all the pods: it is as bad as the worst of them, it lists each one under its name,
and it counts them. -/
structure Covers (node : Node) (resolver : StatusResolver) (pods : List Object) : Prop where
  status : node.status = NodeStatus.worstOf (pods.map fun pod => (resolver.orOk pod).status)
  details : ∃ summaries : PodStatus,
    node.details = [summaries.component, .text (toString pods.length ++ " pods")] ∧
      summaries.size = pods.length ∧
      ∀ pod ∈ pods, summaries[pod.nameAny]? = some (PodStatus.summary resolver pod)

/-- **The node of a group tells of all its pods exactly if their names are pairwise different.** -/
theorem ofPods_covers_iff (resolver : StatusResolver) (name : String) (pods : List Object) :
    (ofPods resolver name pods).Covers resolver pods ↔ (pods.map Object.nameAny).Nodup := by
  constructor
  · rintro ⟨-, summaries, hdetails, hsize, -⟩
    -- the list in the details is the one that the node was made with
    have hsummaries : summaries = PodStatus.ofPods resolver pods := by
      simp only [ofPods, List.cons.injEq, PodStatus.component_inj] at hdetails
      exact hdetails.1.symm
    rw [hsummaries] at hsize
    exact PodStatus.size_ofPods_eq_length_iff.1 hsize
  · intro h
    have hsize : (PodStatus.ofPods resolver pods).size = pods.length :=
      PodStatus.size_ofPods_eq_length_iff.2 h
    refine ⟨PodStatus.status_ofPods h, PodStatus.ofPods resolver pods, ?_, hsize, ?_⟩
    · show [PodStatus.component _, Component.text (toString _ ++ " pods")] = _
      rw [hsize]
    · intro pod hpod
      exact (PodStatus.getElem?_ofPods_eq_some_iff h).2 ⟨pod, hpod, rfl, rfl⟩

/-! ### The order of the pods

The node of a group is made of its entries alone. If no order counts, each pod may be put last, so that
the one node has its summary under its name; and then pods of one name agree. -/

/-- Two groups of one name have the same node exactly if their pods come to the same entries. -/
theorem ofPods_eq_iff {resolver : StatusResolver} {name : String} {pods others : List Object} :
    ofPods resolver name pods = ofPods resolver name others ↔
      PodStatus.ofPods resolver pods = PodStatus.ofPods resolver others := by
  constructor
  · intro h
    have hdetails : (ofPods resolver name pods).details = (ofPods resolver name others).details :=
      congrArg Node.details h
    simp only [ofPods, List.cons.injEq, PodStatus.component_inj] at hdetails
    exact hdetails.1
  · intro h
    simp only [ofPods, h]

/-- **The order of the pods does not count exactly if pods of one name agree.** -/
theorem forall_perm_iff_agree (resolver : StatusResolver) (name : String) (pods : List Object) :
    (∀ others, pods.Perm others → ofPods resolver name pods = ofPods resolver name others) ↔
      PodStatus.Agree resolver pods := by
  constructor
  · intro h
    -- whichever pod is put last, its summary is the entry of its name in the one node
    have hentry : ∀ pod ∈ pods,
        (PodStatus.ofPods resolver pods)[pod.nameAny]? = some (PodStatus.summary resolver pod) := by
      intro pod hpod
      obtain ⟨front, back, rfl⟩ := List.append_of_mem hpod
      have hperm : (front ++ pod :: back).Perm (front ++ back ++ [pod]) :=
        List.perm_middle.trans (List.perm_append_singleton pod (front ++ back)).symm
      rw [ofPods_eq_iff.1 (h _ hperm)]
      exact PodStatus.getElem?_ofPods_last (front ++ back) pod
    intro a ha b hb hname
    have hsame := hentry a ha
    rw [hname, hentry b hb] at hsame
    exact (Option.some.inj hsame).symm
  · intro h others hperm
    exact ofPods_eq_iff.2 (h.ofPods_eq_of_perm hperm)

/-- **Pods of pairwise different names make the same node in any order**, whatever the statuses that are
found for them, and whichever of these are not to be found. -/
theorem same_node_in_any_order (resolver : StatusResolver) (name : String) {pods others : List Object}
    (hnames : (pods.map Object.nameAny).Nodup) (hperm : pods.Perm others) :
    ofPods resolver name pods = ofPods resolver name others :=
  (forall_perm_iff_agree resolver name pods).2 (PodStatus.agree_of_nodup resolver hnames) others hperm

/-- A pod in a bad state, one whose status is not to be found, and one that has no name yet, the last of
them put first. -/
theorem same_node_in_any_order_of_alarm :
    let pods := [Sample.pod "p1", Sample.pod "p2", Sample.unnamed "p3"]
    let others := [Sample.unnamed "p3", Sample.pod "p1", Sample.pod "p2"]
    (pods.map Object.nameAny).Nodup ∧ pods.Perm others ∧
      ofPods Sample.alarm.resolver "web pods" pods = ofPods Sample.alarm.resolver "web pods" others ∧
      (ofPods Sample.alarm.resolver "web pods" others).status = .error := by
  intro pods others
  have hnames : (pods.map Object.nameAny).Nodup := by decide
  have hperm : pods.Perm others := by
    show ([Sample.pod "p1", Sample.pod "p2"] ++ [Sample.unnamed "p3"]).Perm _
    exact List.perm_append_comm
  refine ⟨hnames, hperm, same_node_in_any_order Sample.alarm.resolver "web pods" hnames hperm, ?_⟩
  decide +kernel

end Node

end ClusterGraph
