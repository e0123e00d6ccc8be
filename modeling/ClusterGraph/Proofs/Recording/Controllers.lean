import ClusterGraph.Proofs.Recording.Directions

/-!
# Edges from a group

A group of pods and its controller are to have an edge from the controller to the group only. The test
that is to drop the opposite one looks at the group of what is owned; but where an edge leads from a group
to its controller, the owned side is the controller. So the edge is there whenever it is asked for:

* **`asks_back_iff`** — it is asked for by the pods of the group that own their controller and have a
  reported relation with it.
* **`back_edge_iff`** — and it is shown unless the opposite edge is asked for as well, by other pods, and
  leads from the smaller identifier.
* **`not_forall_back_edge_dropped`** — a controller that one of its own pods owns has such an edge.

Of two ends of a relation a pod of a group is the second, unless both are; so all that a group has an edge
to is as that controller, or a group itself:

* **`group_leads_to_owned_or_group`** — the edges from a group lead to what its pods own and to groups.
-/

namespace ClusterGraph

/-- The object has the namespace, the type and the name of the controller that a key is made from. -/
def PodGroupKey.Names (key : PodGroupKey) (controller : Object) : Prop :=
  controller.namespaceName.getD "" = key.namespaceName ∧
    controller.apiVersion = key.ownerApiVersion ∧
    controller.kind = key.ownerKind ∧ controller.nameAny = key.ownerName

/-- The object is a pod of the group with the node. -/
def Object.InGroup (grouping : Bool) (object : Object) (u : String) : Prop :=
  ∃ key, object.groupKey? grouping = some key ∧ key.nodeId = u

/-- What is shown by a node with an identifier that is not its own is a pod of a group. -/
theorem Object.inGroup_of_visibleId? {grouping : Bool} {object : Object} {u : String}
    (hv : object.visibleId? grouping = some u) (hne : object.id ≠ u) : object.InGroup grouping u := by
  cases hk : object.groupKey? grouping with
  | none => exact absurd (id_of_visibleId? hk hv) hne
  | some key => exact ⟨key, hk, nodeId_of_visibleId? hk hv⟩

/-- The calls report a relation between an object and a pod that a group shows. -/
def Call.Meets (grouping : Bool) (calls : List Call) (object pod : Object)
    (key : PodGroupKey) : Prop :=
  (∃ call ∈ calls, call.Reports object pod) ∧ pod.visibleId? grouping = some key.nodeId

namespace Recording

variable {grouping : Bool} {calls : List Call} {pod controller : Object} {key : PodGroupKey}
  {c : String}

section Apart

variable (hid : Call.Consistent calls) (hapart : Call.GroupsApart grouping calls)
  (hpod : Call.Occurs calls pod) (hk : pod.groupKey? grouping = some key)
  (hcontroller : Call.Occurs calls controller) (hsingle : controller.groupKey? grouping = none)
  (hc : controller.visibleId? grouping = some c)

include hid hapart hpod hk hcontroller hsingle hc

/-- No relation is kept with the group first and the controller second. -/
theorem not_kept_from_group {call : Call} (hm : call ∈ calls) {first second : Object}
    (hr : call.Relates grouping first second) (hfirst : first.visibleId? grouping = some key.nodeId)
    (hsecond : second.visibleId? grouping = some c) : False := by
  obtain ⟨hofirst, hosecond⟩ := hr.occurs hm
  have heq : second = controller :=
    hapart.eq_of_visibleId? hid hcontroller hosecond hsingle hc hsecond
  -- the second end is no pod of a group, and so neither is the first one
  have hfirstSingle : first.groupKey? grouping = none := hr.groupKey?_first (heq ▸ hsingle)
  have hfirstId : first.id = key.nodeId := Object.id_of_visibleId? hfirstSingle hfirst
  exact hapart first pod key hofirst hpod hk hfirstId

/-- The relations that are kept with the controller first and the group second are those that are
reported between the controller and a pod of the group. -/
theorem exists_kept_iff (p : Object → Object → Prop) :
    (∃ call ∈ calls, ∃ first second, call.Relates grouping first second ∧
      first.visibleId? grouping = some c ∧ second.visibleId? grouping = some key.nodeId ∧
        p first second) ↔
      ∃ member, Call.Meets grouping calls controller member key ∧ p controller member := by
  constructor
  · rintro ⟨call, hm, first, second, hr, hfirst, hsecond, hp⟩
    -- what is shown by itself shares its node with nothing else
    have heq : first = controller :=
      hapart.eq_of_visibleId? hid hcontroller (hr.occurs hm).1 hsingle hc hfirst
    have hreports : call.Reports first second := (Call.relates_or_iff.1 (Or.inl hr)).1
    rw [heq] at hreports hp
    exact ⟨second, ⟨⟨call, hm, hreports⟩, hsecond⟩, hp⟩
  · rintro ⟨member, ⟨⟨call, hm, hreports⟩, hmember⟩, hp⟩
    -- a relation of the controller to itself would not be kept, but the two have different nodes
    have hne : controller.id ≠ member.id := by
      intro heq
      rw [← hid controller member hcontroller (hreports.occurs hm).2 heq] at hmember
      exact hapart controller pod key hcontroller hpod hk (Object.id_of_visibleId? hsingle hmember)
    rcases Call.relates_or_iff.2 ⟨hreports, hne⟩ with hr | hr
    · exact ⟨call, hm, controller, member, hr, hc, hmember, hp⟩
    · exact (not_kept_from_group hid hapart hpod hk hcontroller hsingle hc hm hr hmember hc).elim

/-- The edge to the controller is asked for by those pods that own it. -/
theorem asks_back_iff :
    (absorbAll grouping calls).Asks grouping key.nodeId c ↔
      ∃ member, Call.Meets grouping calls controller member key ∧
        controller.isOwnedBy member = true := by
  rw [asks_absorbAll_iff hid]
  refine Iff.trans ?_ (exists_kept_iff hid hapart hpod hk hcontroller hsingle hc
    fun a b => a.isOwnedBy b = true)
  constructor
  · -- of the two ways to ask for the edge, the one that starts at the group would be kept with the group
    -- first
    rintro ⟨call, hm, first, second, hr, ⟨hfirst, hsecond, -⟩ | hasks⟩
    · exact (not_kept_from_group hid hapart hpod hk hcontroller hsingle hc hm hr hfirst hsecond).elim
    · exact ⟨call, hm, first, second, hr, hasks⟩
  · rintro ⟨call, hm, first, second, hr, hasks⟩
    exact ⟨call, hm, first, second, hr, Or.inr hasks⟩

/-- The edge from the controller is asked for by those pods that do not own it. -/
theorem asks_forth_iff :
    (absorbAll grouping calls).Asks grouping c key.nodeId ↔
      ∃ member, Call.Meets grouping calls controller member key ∧
        controller.isOwnedBy member = false := by
  rw [asks_absorbAll_iff hid]
  refine Iff.trans ?_ (exists_kept_iff hid hapart hpod hk hcontroller hsingle hc
    fun a b => a.isOwnedBy b = false)
  constructor
  · rintro ⟨call, hm, first, second, hr, hasks | ⟨hfirst, hsecond, -⟩⟩
    · exact ⟨call, hm, first, second, hr, hasks⟩
    · exact (not_kept_from_group hid hapart hpod hk hcontroller hsingle hc hm hr hfirst hsecond).elim
  · rintro ⟨call, hm, first, second, hr, hasks⟩
    exact ⟨call, hm, first, second, hr, Or.inl hasks⟩

end Apart

/-! ## A controller that one of its own pods owns

The calls of `Sample.adoption` process a replica set and two pods of its group, the second of which owns
the replica set, and relate the replica set to both. They meet the conditions that the theorems below are
stated under, so that these are no empty ones. -/

theorem mem_of_adoption : ∀ call ∈ Sample.adoption, ∀ object ∈ call.objects,
    object ∈ [Sample.adopted, Sample.pod "p1", Sample.pod "p2"] := by
  simp [Sample.adoption, Call.objects]

theorem consistent_adoption : Call.Consistent Sample.adoption :=
  Call.consistent_of_nodup mem_of_adoption (by decide)

theorem groupsApart_adoption : Call.GroupsApart true Sample.adoption := by
  rintro object pod key ⟨call, hm, -, ho⟩ ⟨call', hm', -, hp⟩ hk
  have hobject := mem_of_adoption call hm object ho
  have hpod := mem_of_adoption call' hm' pod hp
  simp only [List.mem_cons, List.not_mem_nil, or_false] at hobject hpod
  have hkey : key = Sample.group := by
    rcases hpod with rfl | rfl | rfl <;> cases hk <;> rfl
  rw [hkey]
  rcases hobject with rfl | rfl | rfl <;> decide

/-! ## The edge back

Whether a relation asks for the edge depends on one pod, and the node of the group stands for all of them.
So the two directions are settled by different pods, and where both are asked for it is the order of the
two identifiers that decides. -/

/-- **The edge from a group back to its controller is shown whenever it is asked for**, unless the opposite
one is asked for as well and the controller has the smaller identifier. Where identifiers stand for one
object each and the controller is shown by itself, the pods that it has a reported relation with ask for
these edges: those that own the controller for the one back, the others for the opposite one. -/
theorem back_edge_iff (grouping : Bool) (calls : List Call) {pod controller : Object}
    {key : PodGroupKey} {c : String} (hpod : (absorbAll grouping calls).Shows pod)
    (hcontroller : (absorbAll grouping calls).Shows controller)
    (hk : pod.groupKey? grouping = some key) (hc : controller.visibleId? grouping = some c) :
    let recording := absorbAll grouping calls
    let back := recording.Asks grouping key.nodeId c
    let forth := recording.Asks grouping c key.nodeId
    (c ∈ (recording.adjacencyList grouping).targets key.nodeId ↔
      back ∧ (key.nodeId < c ∨ ¬ forth)) ∧
    (Call.Consistent calls → Call.GroupsApart grouping calls →
      controller.groupKey? grouping = none →
      (back ↔ ∃ member, Call.Meets grouping calls controller member key ∧
        controller.isOwnedBy member = true) ∧
      (forth ↔ ∃ member, Call.Meets grouping calls controller member key ∧
        controller.isOwnedBy member = false)) := by
  intro recording back forth
  refine ⟨?_, fun hid hapart hsingle => ?_⟩
  · -- the edge passes all tests, so that only the choice between the two directions is left
    have hgroup : key.nodeId ∈ recording.visibleIds grouping :=
      mem_visibleIds.2 ⟨pod, hpod, Object.visibleId?_of_groupKey? hk⟩
    have hvisible : c ∈ recording.visibleIds grouping := mem_visibleIds.2 ⟨controller, hcontroller, hc⟩
    rw [mem_targets_adjacencyList_iff_asks]
    exact ⟨And.right, fun h => ⟨⟨hgroup, hvisible⟩, h⟩⟩
  · have hoccurs : ∀ {object : Object}, recording.Shows object → Call.Occurs calls object := by
      rintro object ⟨id, -, ho⟩
      obtain ⟨-, call, hm, hn⟩ := exists_noted_of_objects ho
      exact hn.occurs hm
    exact ⟨asks_back_iff hid hapart (hoccurs hpod) hk (hoccurs hcontroller) hsingle hc,
      asks_forth_iff hid hapart (hoccurs hpod) hk (hoccurs hcontroller) hsingle hc⟩

/-- The second pod asks for the edge from the group to the replica set, and the first one for the opposite
edge; the former is shown. -/
theorem back_edge_iff_of_adoption :
    "rs" ∈ ((absorbAll true Sample.adoption).adjacencyList true).targets Sample.group.nodeId := by
  have hpod : (absorbAll true Sample.adoption).Shows (Sample.pod "p2") := ⟨"p2", by decide, rfl⟩
  have hcontroller : (absorbAll true Sample.adoption).Shows Sample.adopted := ⟨"rs", by decide, rfl⟩
  have hk : (Sample.pod "p2").groupKey? true = some Sample.group := rfl
  have hc : Sample.adopted.visibleId? true = some "rs" := rfl
  obtain ⟨hedge, hasks⟩ := back_edge_iff true Sample.adoption hpod hcontroller hk hc
  obtain ⟨hback, -⟩ := hasks consistent_adoption groupsApart_adoption rfl
  have hmeets : Call.Meets true Sample.adoption Sample.adopted (Sample.pod "p2") Sample.group := by
    refine ⟨⟨_, ?_, by decide, Or.inl rfl⟩, Sample.visibleId?_pod "p2"⟩
    simp [Sample.adoption]
  -- the group's identifier is the smaller one, so that the opposite edge need not be looked at
  exact hedge.2 ⟨hback.2 ⟨_, hmeets, by decide⟩, Or.inl (by decide)⟩

/-- An edge from a group to the replica set that owns its pods is not dropped. -/
theorem not_forall_back_edge_dropped :
    ¬ ∀ (grouping : Bool) (calls : List Call) (pod controller : Object) (key : PodGroupKey)
      (c : String), Call.Consistent calls → (∃ call ∈ calls, call.Processes pod) →
      (∃ call ∈ calls, call.Processes controller) → pod.groupKey? grouping = some key →
      key.Names controller → pod.isOwnedBy controller = true →
      controller.visibleId? grouping = some c →
      c ∉ ((absorbAll grouping calls).adjacencyList grouping).targets key.nodeId := by
  intro hall
  have hpod : ∃ call ∈ Sample.adoption, call.Processes (Sample.pod "p1") :=
    ⟨.process (Sample.pod "p1"), by simp [Sample.adoption], by decide, rfl⟩
  have hcontroller : ∃ call ∈ Sample.adoption, call.Processes Sample.adopted :=
    ⟨.process Sample.adopted, by simp [Sample.adoption], by decide, rfl⟩
  have hdropped := hall true Sample.adoption (Sample.pod "p1") Sample.adopted Sample.group "rs"
    consistent_adoption hpod hcontroller rfl ⟨rfl, rfl, rfl, rfl⟩ (by decide) rfl
  -- the relation with the second pod asks for the edge, and the group has the smaller identifier
  have hgroup := Sample.visibleId?_pod "p2"
  have hrelates : (Call.edge Sample.adopted (Sample.pod "p2")).Relates true Sample.adopted
      (Sample.pod "p2") := ⟨by decide, by decide, _, _, rfl, rfl⟩
  have hasks : ∃ call ∈ Sample.adoption, call.Asks true Sample.group.nodeId "rs" := by
    refine ⟨_, ?_, _, _, hrelates, Or.inr ⟨rfl, hgroup, by decide⟩⟩
    simp [Sample.adoption]
  refine hdropped ((mem_targets_adjacencyList consistent_adoption).2 ⟨⟨?_, ?_⟩, hasks, Or.inl ?_⟩)
  · exact mem_visibleIds.2 ⟨_, ⟨"p2", by decide, rfl⟩, hgroup⟩
  · exact mem_visibleIds.2 ⟨_, ⟨"rs", by decide, rfl⟩, rfl⟩
  · decide

/-! ## All edges from a group

A recorded relation has a pod of a group first only if both ends are such pods. What is left is a relation
with the pod second, and that becomes an edge from the group only where the pod owns the first end. -/

/-- **A group has edges only to what its pods own and to groups.** Where identifiers stand for one object
each and no object has the identifier of the group, an edge from the group is that of a reported relation
of one of its pods, with another pod of a group or with an object that the pod owns. -/
theorem group_leads_to_owned_or_group (grouping : Bool) (calls : List Call)
    (hid : Call.Consistent calls) {key : PodGroupKey}
    (hapart : ∀ object, Call.Occurs calls object → object.id ≠ key.nodeId) {t : String}
    (h : t ∈ ((absorbAll grouping calls).adjacencyList grouping).targets key.nodeId) :
    ∃ pod other, (∃ call ∈ calls, call.Reports pod other) ∧ pod.InGroup grouping key.nodeId ∧
      other.visibleId? grouping = some t ∧
        (other.InGroup grouping t ∨ other.isOwnedBy pod = true) := by
  -- an edge is asked for by its first end, or by its second one as what is owned
  obtain ⟨-, ⟨call, hm, first, second, hr, hasks⟩, -⟩ := (mem_targets_adjacencyList hid).1 h
  obtain ⟨hfirst, hsecond⟩ := hr.occurs hm
  have hreports : call.Reports first second := (Call.relates_or_iff.1 (Or.inl hr)).1
  rcases hasks with ⟨hfu, hst, -⟩ | ⟨hft, hsu, hown⟩
  · -- the first end is a pod of a group only if the second is one as well
    have hfgroup : first.InGroup grouping key.nodeId :=
      Object.inGroup_of_visibleId? hfu (hapart first hfirst)
    have hgrouped : second.groupKey? grouping ≠ none := by
      intro hnone
      obtain ⟨own, hk, -⟩ := hfgroup
      rw [hr.groupKey?_first hnone] at hk
      cases hk
    obtain ⟨other, hk⟩ := Option.ne_none_iff_exists'.1 hgrouped
    have hsgroup : second.InGroup grouping t := ⟨other, hk, Object.nodeId_of_visibleId? hk hst⟩
    exact ⟨first, second, ⟨call, hm, hreports⟩, hfgroup, hst, Or.inl hsgroup⟩
  · have hsgroup : second.InGroup grouping key.nodeId :=
      Object.inGroup_of_visibleId? hsu (hapart second hsecond)
    exact ⟨second, first, ⟨call, hm, hreports.symm⟩, hsgroup, hft, Or.inr hown⟩

/-- The replica set that the group of its pods has an edge to is owned by one of them. -/
theorem group_leads_to_owned_or_group_of_adoption :
    ∃ pod other, (∃ call ∈ Sample.adoption, call.Reports pod other) ∧
      pod.InGroup true Sample.group.nodeId ∧ other.visibleId? true = some "rs" ∧
        (other.InGroup true "rs" ∨ other.isOwnedBy pod = true) := by
  have hgrouped : Call.Occurs Sample.adoption (Sample.pod "p1") :=
    ⟨.process (Sample.pod "p1"), by simp [Sample.adoption], by decide, by simp [Call.objects]⟩
  have hapart : ∀ object, Call.Occurs Sample.adoption object → object.id ≠ Sample.group.nodeId :=
    fun object ho => groupsApart_adoption object _ _ ho hgrouped rfl
  exact group_leads_to_owned_or_group true Sample.adoption consistent_adoption hapart
    (by decide +kernel)

end Recording

end ClusterGraph
