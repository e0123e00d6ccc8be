import ClusterGraph.Proofs.Recording.Edges
import ClusterGraph.Proofs.Recording.Order

/-!
# Which way an edge leads

A relation asks for an edge in one direction: from the first end that is kept to the second, or from
owner to owned. Of all relations between the objects of two nodes, some may ask for one direction and
some for the other.

* **`mem_targets_adjacencyList_iff_asks`** — an edge leads the way that is asked for; and when both ways
  are, it leads from the smaller identifier to the larger one.
* **`ownership_edge_iff`** — so the edge between an owner and what it owns leads from the owner, unless
  another relation between the two nodes asks for the opposite and the owner has the larger identifier.
  That takes an owner that is a pod of a group (`not_asks_back`).
* **`not_forall_ownership_edge`** — and with a pod of a group as owner it does happen.
-/

namespace ClusterGraph

theorem Object.id_of_visibleId? {grouping : Bool} {object : Object} {id : String}
    (hk : object.groupKey? grouping = none) (hv : object.visibleId? grouping = some id) :
    object.id = id := by
  unfold visibleId? at hv
  split at hv
  · cases hv
  · simpa [hk] using hv

theorem Object.nodeId_of_visibleId? {grouping : Bool} {object : Object} {key : PodGroupKey}
    {id : String} (hk : object.groupKey? grouping = some key)
    (hv : object.visibleId? grouping = some id) : key.nodeId = id := by
  rw [visibleId?_of_groupKey? hk] at hv
  exact Option.some.inj hv

namespace Call

/-- The call reports a relation that asks for an edge from one node to another. -/
def Asks (grouping : Bool) (call : Call) (u v : String) : Prop :=
  ∃ first second, call.Relates grouping first second ∧
    (first.visibleId? grouping = some u ∧ second.visibleId? grouping = some v ∧
        first.isOwnedBy second = false ∨
      first.visibleId? grouping = some v ∧ second.visibleId? grouping = some u ∧
        first.isOwnedBy second = true)

/-- No object of the calls has the identifier of a group of pods. -/
def GroupsApart (grouping : Bool) (calls : List Call) : Prop :=
  ∀ object pod key, Occurs calls object → Occurs calls pod →
    pod.groupKey? grouping = some key → object.id ≠ key.nodeId

theorem Processes.occurs {calls : List Call} {call : Call} {object : Object}
    (h : call.Processes object) (hm : call ∈ calls) : Occurs calls object :=
  ⟨call, hm, h.1, by rw [h.2]; exact List.mem_singleton_self object⟩

theorem Relates.occurs {grouping : Bool} {calls : List Call} {call : Call} {first second : Object}
    (h : call.Relates grouping first second) (hm : call ∈ calls) :
    Occurs calls first ∧ Occurs calls second :=
  ⟨⟨call, hm, h.isAccepted, h.mem_objects.1⟩, ⟨call, hm, h.isAccepted, h.mem_objects.2⟩⟩

/-- Of the two ends that are kept, the first is no pod of a group unless both are. -/
theorem Relates.groupKey?_first {grouping : Bool} {call : Call} {first second : Object}
    (h : call.Relates grouping first second) (hs : second.groupKey? grouping = none) :
    first.groupKey? grouping = none := by
  obtain ⟨_, _, parent, child, _, horient⟩ := h
  unfold Recording.orient at horient
  by_cases hp : (parent.groupKey? grouping).isSome = true
  · -- the grouped parent would be the second end
    rw [if_pos hp] at horient
    cases horient
    rw [hs] at hp
    cases hp
  · rw [if_neg hp] at horient
    cases horient
    simpa using hp

/-- An object that is shown by itself shares its node with no other one. -/
theorem GroupsApart.eq_of_visibleId? {grouping : Bool} {calls : List Call}
    (hapart : GroupsApart grouping calls) (hid : Consistent calls) {a b : Object}
    (ha : Occurs calls a) (hb : Occurs calls b) (hsingle : a.groupKey? grouping = none) {u : String}
    (hau : a.visibleId? grouping = some u) (hbu : b.visibleId? grouping = some u) : b = a := by
  have haid : a.id = u := Object.id_of_visibleId? hsingle hau
  cases hk : b.groupKey? grouping with
  | none =>
    have hbid : b.id = u := Object.id_of_visibleId? hk hbu
    exact hid b a hb ha (hbid.trans haid.symm)
  | some key =>
    have hkey : key.nodeId = u := Object.nodeId_of_visibleId? hk hbu
    exact absurd (haid.trans hkey.symm) (hapart a b key ha hb hk)

/-- The call reports a relation between two objects, from one end or the other. -/
def Reports (call : Call) (a b : Object) : Prop :=
  call.IsAccepted ∧ (call = .edge a b ∨ call = .edge b a)

theorem Reports.symm {call : Call} {a b : Object} (h : call.Reports a b) : call.Reports b a :=
  ⟨h.1, h.2.symm⟩

theorem Reports.occurs {calls : List Call} {call : Call} {a b : Object} (h : call.Reports a b)
    (hm : call ∈ calls) : Occurs calls a ∧ Occurs calls b := by
  obtain ⟨haccepted, rfl | rfl⟩ := h
  · exact ⟨⟨_, hm, haccepted, by simp [objects]⟩, ⟨_, hm, haccepted, by simp [objects]⟩⟩
  · exact ⟨⟨_, hm, haccepted, by simp [objects]⟩, ⟨_, hm, haccepted, by simp [objects]⟩⟩

/-- A relation between objects of different identifiers is kept, in one order or the other. -/
theorem relates_or_iff {grouping : Bool} {call : Call} {a b : Object} :
    call.Relates grouping a b ∨ call.Relates grouping b a ↔ call.Reports a b ∧ a.id ≠ b.id := by
  constructor
  · have hone : ∀ {first second : Object}, call.Relates grouping first second →
        call.Reports first second ∧ first.id ≠ second.id := by
      rintro first second ⟨haccepted, hne, parent, child, rfl, ho⟩
      rcases Recording.orient_cases grouping parent child with heq | heq <;> rw [heq] at ho <;> cases ho
      · exact ⟨⟨haccepted, Or.inl rfl⟩, hne⟩
      · exact ⟨⟨haccepted, Or.inr rfl⟩, hne⟩
    rintro (h | h)
    · exact hone h
    · exact ⟨(hone h).1.symm, (hone h).2.symm⟩
  · rintro ⟨⟨haccepted, rfl | rfl⟩, hne⟩
    · exact (Recording.orient_cases grouping a b).imp
        (fun ho => ⟨haccepted, hne, a, b, rfl, ho⟩) fun ho => ⟨haccepted, hne.symm, a, b, rfl, ho⟩
    · exact (Recording.orient_cases grouping b a).symm.imp
        (fun ho => ⟨haccepted, hne, b, a, rfl, ho⟩) fun ho => ⟨haccepted, hne.symm, b, a, rfl, ho⟩

theorem consistent_of_nodup {calls : List Call} {objects : List Object}
    (hsub : ∀ call ∈ calls, ∀ object ∈ call.objects, object ∈ objects)
    (hnd : (objects.map Object.id).Nodup) : Consistent calls := by
  rintro a b ⟨ca, hca, -, ha⟩ ⟨cb, hcb, -, hb⟩ hab
  exact List.inj_on_of_nodup_map hnd (hsub ca hca a ha) (hsub cb hcb b hb) hab

end Call

namespace Recording

variable {grouping : Bool} {calls : List Call}

/-! ## Recorded relations and shown objects

With identifiers that stand for one object each, what is kept for an identifier is what every call meant
by it. A recorded relation can then be read off the call that reported it, and the other way round. -/

/-- Where identifiers stand for one object each, the recorded relations are those that the calls
report. -/
theorem mem_relations_absorbAll (hid : Call.Consistent calls) {first second : Object} :
    (first, second) ∈ (absorbAll grouping calls).relations ↔
      ∃ call ∈ calls, call.Relates grouping first second := by
  have hends : ∀ {call : Call} {a b : Object}, call ∈ calls → call.Relates grouping a b →
      (absorbAll grouping calls).objects[a.id]? = some a ∧
        (absorbAll grouping calls).objects[b.id]? = some b := by
    intro call a b hm hr
    exact ⟨getElem?_objects_of_notes hid hm (Or.inr ⟨b, Or.inl hr⟩),
      getElem?_objects_of_notes hid hm (Or.inr ⟨a, Or.inr hr⟩)⟩
  rw [mem_relations]
  constructor
  · -- the objects kept for the two identifiers are those that the call named
    rintro ⟨_, _, ht, hfirst, hsecond⟩
    obtain ⟨call, hm, a, b, hr, rfl, rfl⟩ := mem_targets_absorbAll.1 ht
    obtain ⟨ha, hb⟩ := hends hm hr
    rw [ha] at hfirst
    rw [hb] at hsecond
    cases hfirst
    cases hsecond
    exact ⟨call, hm, hr⟩
  · rintro ⟨call, hm, hr⟩
    have ht : second.id ∈ (absorbAll grouping calls).targets first.id :=
      mem_targets_absorbAll.2 ⟨call, hm, first, second, hr, rfl, rfl⟩
    exact ⟨first.id, second.id, ht, hends hm hr⟩

theorem shows_of_processes (hid : Call.Consistent calls) {call : Call} (hm : call ∈ calls)
    {object : Object} (hp : call.Processes object) :
    (absorbAll grouping calls).Shows object := by
  have hprocessed : object.id ∈ (absorbAll grouping calls).processed :=
    mem_processed_absorbAll.2 ⟨call, hm, object, hp, rfl⟩
  exact ⟨object.id, hprocessed, getElem?_objects_of_notes hid hm (Or.inl hp)⟩

/-! ## The direction of an edge

What a relation asks for is settled by its two ends alone (`exists_arrow?_iff`). Between two nodes there
may be many relations; the choice of one direction is `AdjacencyList.dedup`'s, which goes by the
identifiers and knows nothing of ownership. -/

/-- An arrow leads from owner to owned, and else from the first end to the second. -/
theorem exists_arrow?_iff {first second : Object} {u v : String} (huv : u ≠ v) :
    (∃ arrow, arrow? grouping first second = some arrow ∧ arrow.source = u ∧ arrow.target = v) ↔
      first.visibleId? grouping = some u ∧ second.visibleId? grouping = some v ∧
          first.isOwnedBy second = false ∨
        first.visibleId? grouping = some v ∧ second.visibleId? grouping = some u ∧
          first.isOwnedBy second = true := by
  constructor
  · rintro ⟨arrow, ha, rfl, rfl⟩
    obtain ⟨x, y, hx, hy, hxy⟩ := visible_of_arrow? ha
    rw [arrow?_of_visible hx hy hxy] at ha
    -- ownership of the second end turns the arrow round
    cases ho : first.isOwnedBy second <;> rw [ho] at ha <;> cases ha <;> simp [hx, hy]
  · rintro (⟨hu, hv, ho⟩ | ⟨hv, hu, ho⟩)
    · exact ⟨_, arrow?_of_visible hu hv huv, by simp [ho], by simp [ho]⟩
    · exact ⟨_, arrow?_of_visible hv hu huv.symm, by simp [ho], by simp [ho]⟩

/-- A recorded relation asks for an edge from one node to another. -/
def Asks (recording : Recording) (grouping : Bool) (u v : String) : Prop :=
  ∃ first second, (first, second) ∈ recording.relations ∧
    (first.visibleId? grouping = some u ∧ second.visibleId? grouping = some v ∧
        first.isOwnedBy second = false ∨
      first.visibleId? grouping = some v ∧ second.visibleId? grouping = some u ∧
        first.isOwnedBy second = true)

/-- Where identifiers stand for one object each, recorded relations ask for what the calls ask for. -/
theorem asks_absorbAll_iff (hid : Call.Consistent calls) {u v : String} :
    (absorbAll grouping calls).Asks grouping u v ↔ ∃ call ∈ calls, call.Asks grouping u v := by
  constructor
  · rintro ⟨first, second, hm, hasks⟩
    obtain ⟨call, hcall, hr⟩ := (mem_relations_absorbAll hid).1 hm
    exact ⟨call, hcall, first, second, hr, hasks⟩
  · rintro ⟨call, hcall, first, second, hr, hasks⟩
    exact ⟨first, second, (mem_relations_absorbAll hid).2 ⟨call, hcall, hr⟩, hasks⟩

theorem mem_targets_shownEdges_iff_asks {recording : Recording} {u v : String} (huv : u ≠ v) :
    v ∈ (recording.shownEdges grouping).targets u ↔
      recording.Asks grouping u v ∧
        u ∈ recording.visibleIds grouping ∧ v ∈ recording.visibleIds grouping := by
  rw [mem_targets_shownEdges]
  refine and_congr_left fun _ => ?_
  constructor
  · rintro ⟨first, second, arrow, hm, ha⟩
    exact ⟨first, second, hm, (exists_arrow?_iff huv).1 ⟨arrow, ha⟩⟩
  · rintro ⟨first, second, hm, hasks⟩
    obtain ⟨arrow, ha⟩ := (exists_arrow?_iff huv).2 hasks
    exact ⟨first, second, arrow, hm, ha⟩

/-- **An edge leads the way that is asked for**, and when both ways are, from the smaller identifier to
the larger one. -/
theorem mem_targets_adjacencyList_iff_asks {recording : Recording} {u v : String} :
    v ∈ (recording.adjacencyList grouping).targets u ↔
      (u ∈ recording.visibleIds grouping ∧ v ∈ recording.visibleIds grouping) ∧
      recording.Asks grouping u v ∧ (u < v ∨ ¬ recording.Asks grouping v u) := by
  unfold adjacencyList
  rw [AdjacencyList.mem_targets_dedup_iff]
  by_cases huv : u = v
  · -- no edge leads from a node to itself, and none is asked for in one direction only
    subst huv
    have hself : ¬ (recording.Asks grouping u u ∧ (u < u ∨ ¬ recording.Asks grouping u u)) :=
      fun ⟨hasks, hfirst⟩ => hfirst.elim (lt_irrefl u) fun hnot => hnot hasks
    exact ⟨fun h => absurd rfl h.2.1, fun h => absurd h.2 hself⟩
  rw [mem_targets_shownEdges_iff_asks huv, mem_targets_shownEdges_iff_asks (Ne.symm huv)]
  constructor
  · rintro ⟨⟨hasks, hvisible⟩, -, hfirst⟩
    exact ⟨hvisible, hasks, hfirst.imp_right fun hnot hback => hnot ⟨hback, hvisible.symm⟩⟩
  · rintro ⟨hvisible, hasks, hfirst⟩
    exact ⟨⟨hasks, hvisible⟩, huv, hfirst.imp_right fun hnot hback => hnot hback.1⟩

theorem mem_targets_adjacencyList (hid : Call.Consistent calls) {u v : String} :
    v ∈ ((absorbAll grouping calls).adjacencyList grouping).targets u ↔
      (u ∈ (absorbAll grouping calls).visibleIds grouping ∧
        v ∈ (absorbAll grouping calls).visibleIds grouping) ∧
      (∃ call ∈ calls, call.Asks grouping u v) ∧
        (u < v ∨ ¬ ∃ call ∈ calls, call.Asks grouping v u) := by
  rw [mem_targets_adjacencyList_iff_asks, asks_absorbAll_iff hid, asks_absorbAll_iff hid]

/-- Of two nodes with an edge that is asked for, there is this edge and not the opposite one exactly if it
leads from the smaller identifier or the opposite one is not asked for. -/
theorem leads_only_iff (hid : Call.Consistent calls) {u v : String}
    (hu : u ∈ (absorbAll grouping calls).visibleIds grouping)
    (hv : v ∈ (absorbAll grouping calls).visibleIds grouping)
    (hasks : ∃ call ∈ calls, call.Asks grouping u v) :
    v ∈ ((absorbAll grouping calls).adjacencyList grouping).targets u ∧
        u ∉ ((absorbAll grouping calls).adjacencyList grouping).targets v ↔
      u < v ∨ ¬ ∃ call ∈ calls, call.Asks grouping v u := by
  rw [mem_targets_adjacencyList hid, mem_targets_adjacencyList hid]
  constructor
  · exact fun h => h.1.2.2
  · intro h
    refine ⟨⟨⟨hu, hv⟩, hasks, h⟩, ?_⟩
    -- the opposite edge would lead from the smaller identifier, since this one is asked for
    rintro ⟨-, hback, hless⟩
    have hlt : v < u := hless.resolve_right fun hnot => hnot hasks
    rcases h with h | h
    · exact absurd hlt h.asymm
    · exact h hback

/-! ## Ownership

For the edge from owned to owner to be asked for, a recorded relation has to lead from the node of the
owned object to that of the owner without being one of ownership. The owner is then the second end, and
where it is no pod of a group both nodes show one object only: the relation is the one between owner and
owned after all. -/

/-- A relation between owned and owner, reported from either end, asks for the edge from the owner. -/
theorem asks_of_isOwnedBy {call : Call} {owned owner : Object} (ha : call.IsAccepted)
    (hne : owned.id ≠ owner.id) (hcall : call = .edge owned owner ∨ call = .edge owner owned)
    {u v : String} (hu : owner.visibleId? grouping = some u)
    (hv : owned.visibleId? grouping = some v) (hown : owned.isOwnedBy owner = true)
    (hback : owner.isOwnedBy owned = false) : call.Asks grouping u v := by
  have hrelates : call.Relates grouping owned owner ∨ call.Relates grouping owner owned :=
    Call.relates_or_iff.2 ⟨⟨ha, hcall⟩, hne⟩
  -- whichever end was put first, the edge that is asked for is the same
  rcases hrelates with hr | hr
  · exact ⟨owned, owner, hr, Or.inr ⟨hv, hu, hown⟩⟩
  · exact ⟨owner, owned, hr, Or.inl ⟨hu, hv, hback⟩⟩

/-- No relation asks for an edge to an owner that is no pod of a group. -/
theorem not_asks_back (hid : Call.Consistent calls) (hapart : Call.GroupsApart grouping calls)
    {owned owner : Object} (howned : Call.Occurs calls owned) (howner : Call.Occurs calls owner)
    {u v : String} (hu : owner.visibleId? grouping = some u)
    (hv : owned.visibleId? grouping = some v) (hown : owned.isOwnedBy owner = true)
    (hback : ∀ a b, Call.Occurs calls a → Call.Occurs calls b → a.visibleId? grouping = some u →
      b.visibleId? grouping = some v → a.isOwnedBy b = false)
    (hsingle : owner.groupKey? grouping = none) :
    ¬ ∃ call ∈ calls, call.Asks grouping v u := by
  rintro ⟨call, hm, first, second, hr, hasks⟩
  obtain ⟨hfirst, hsecond⟩ := hr.occurs hm
  rcases hasks with ⟨hfv, hsu, hno⟩ | ⟨hfu, hsv, hyes⟩
  · -- the second end can only be the owner, the first one only what is owned
    have howner : second = owner := hapart.eq_of_visibleId? hid howner hsecond hsingle hu hsu
    have hfirstSingle : first.groupKey? grouping = none :=
      hr.groupKey?_first (howner ▸ hsingle)
    have howned : owned = first := hapart.eq_of_visibleId? hid hfirst howned hfirstSingle hfv hv
    rw [← howned, howner, hown] at hno
    cases hno
  · rw [hback first second hfirst hsecond hfu hsv] at hyes
    cases hyes

/-- **Between an owner and what it owns the edge leads from the owner**, exactly if the owner has the
smaller identifier or no relation between the two nodes asks for the opposite edge. None does where the
owner is no pod of a group. -/
theorem ownership_edge_iff (hid : Call.Consistent calls) {owned owner : Object}
    (howned : ∃ call ∈ calls, call.Processes owned)
    (howner : ∃ call ∈ calls, call.Processes owner) {u v : String}
    (hu : owner.visibleId? grouping = some u) (hv : owned.visibleId? grouping = some v)
    (huv : u ≠ v) (hown : owned.isOwnedBy owner = true)
    (hrelated : ∃ call ∈ calls, call.IsAccepted ∧
      (call = .edge owned owner ∨ call = .edge owner owned))
    (hback : ∀ a b, Call.Occurs calls a → Call.Occurs calls b → a.visibleId? grouping = some u →
      b.visibleId? grouping = some v → a.isOwnedBy b = false) :
    let edges := (absorbAll grouping calls).adjacencyList grouping
    (v ∈ edges.targets u ∧ u ∉ edges.targets v ↔
      u < v ∨ ¬ ∃ call ∈ calls, call.Asks grouping v u) ∧
    (Call.GroupsApart grouping calls → owner.groupKey? grouping = none →
      ¬ ∃ call ∈ calls, call.Asks grouping v u) := by
  intro edges
  obtain ⟨processOwned, hmOwned, hpOwned⟩ := howned
  obtain ⟨processOwner, hmOwner, hpOwner⟩ := howner
  obtain ⟨call, hm, ha, hcall⟩ := hrelated
  have hoOwned : Call.Occurs calls owned := hpOwned.occurs hmOwned
  have hoOwner : Call.Occurs calls owner := hpOwner.occurs hmOwner
  -- one identifier for both would make them one object, with one node
  have hne : owned.id ≠ owner.id := by
    intro heq
    rw [hid owned owner hoOwned hoOwner heq, hu] at hv
    exact huv (Option.some.inj hv)
  have hasks : ∃ call ∈ calls, call.Asks grouping u v :=
    ⟨call, hm, asks_of_isOwnedBy ha hne hcall hu hv hown (hback _ _ hoOwner hoOwned hu hv)⟩
  have huVisible : u ∈ (absorbAll grouping calls).visibleIds grouping :=
    mem_visibleIds.2 ⟨owner, shows_of_processes hid hmOwner hpOwner, hu⟩
  have hvVisible : v ∈ (absorbAll grouping calls).visibleIds grouping :=
    mem_visibleIds.2 ⟨owned, shows_of_processes hid hmOwned hpOwned, hv⟩
  exact ⟨leads_only_iff hid huVisible hvVisible hasks, fun hapart hsingle =>
    not_asks_back hid hapart hoOwned hoOwner hu hv hown hback hsingle⟩

/-- A pod of a group, whose relation with its replica set the pod itself reports. -/
theorem ownership_edge_iff_of_pod :
    let calls := [.process Sample.replicaSet, .process (Sample.pod "p1"),
      .edge (Sample.pod "p1") Sample.replicaSet]
    let edges := (absorbAll true calls).adjacencyList true
    let group := "pods:7:default:7:apps/v1:10:ReplicaSet:3:web"
    group ∈ edges.targets "rs" ∧ "rs" ∉ edges.targets group := by
  intro calls edges group
  have hobjects : ∀ call ∈ calls, ∀ object ∈ call.objects,
      object ∈ [Sample.replicaSet, Sample.pod "p1"] := by
    simp [calls, Call.objects]
  have hid : Call.Consistent calls := Call.consistent_of_nodup hobjects (by decide)
  have hoccurs : ∀ object, Call.Occurs calls object →
      object = Sample.replicaSet ∨ object = Sample.pod "p1" := by
    rintro object ⟨call, hm, -, ho⟩
    simpa using hobjects call hm object ho
  have hback : ∀ a b, Call.Occurs calls a → Call.Occurs calls b →
      a.visibleId? true = some "rs" → b.visibleId? true = some group →
      a.isOwnedBy b = false := by
    intro a b ha hb hau hbv
    rcases hoccurs a ha with rfl | rfl
    · rcases hoccurs b hb with rfl | rfl <;> decide
    · exact absurd hau (by decide +kernel)
  have hapart : Call.GroupsApart true calls := by
    intro object pod key ho hp hk
    have hkey : key.nodeId = group := by
      rcases hoccurs pod hp with rfl | rfl
      · cases hk
      · cases hk
        decide +kernel
    rw [hkey]
    rcases hoccurs object ho with rfl | rfl <;> decide
  have howned : ∃ call ∈ calls, call.Processes (Sample.pod "p1") :=
    ⟨.process (Sample.pod "p1"), by simp [calls], by decide, rfl⟩
  have howner : ∃ call ∈ calls, call.Processes Sample.replicaSet :=
    ⟨.process Sample.replicaSet, by simp [calls], by decide, rfl⟩
  have hu : Sample.replicaSet.visibleId? true = some "rs" := by decide +kernel
  have hv : (Sample.pod "p1").visibleId? true = some group := by decide +kernel
  obtain ⟨hiff, hnone⟩ := ownership_edge_iff hid howned howner hu hv (by decide) (by decide)
    ⟨.edge (Sample.pod "p1") Sample.replicaSet, by simp [calls], by decide, Or.inl rfl⟩ hback
  exact hiff.2 (Or.inr (hnone hapart (by decide)))

/-- A config map that belongs to one pod of a group and is used by another one: the edge leads from the
config map, which is owned, to the group, which is shown for the owner. -/
theorem not_forall_ownership_edge :
    ¬ ∀ (grouping : Bool) (calls : List Call) (owned owner : Object) (u v : String),
      Call.Consistent calls → (∃ call ∈ calls, call.Processes owned) →
      (∃ call ∈ calls, call.Processes owner) → owner.visibleId? grouping = some u →
      owned.visibleId? grouping = some v → u ≠ v → owned.isOwnedBy owner = true →
      (∃ call ∈ calls, call.IsAccepted ∧ (call = .edge owned owner ∨ call = .edge owner owned)) →
      (∀ a b, Call.Occurs calls a → Call.Occurs calls b → a.visibleId? grouping = some u →
        b.visibleId? grouping = some v → a.isOwnedBy b = false) →
      v ∈ ((absorbAll grouping calls).adjacencyList grouping).targets u ∧
        u ∉ ((absorbAll grouping calls).adjacencyList grouping).targets v := by
  intro hall
  let calls : List Call := [.process Sample.settings, .process (Sample.pod "p1"),
    .process (Sample.pod "p2"), .edge Sample.settings (Sample.pod "p1"),
    .edge (Sample.pod "p2") Sample.settings]
  let group := "pods:7:default:7:apps/v1:10:ReplicaSet:3:web"
  have hobjects : ∀ call ∈ calls, ∀ object ∈ call.objects,
      object ∈ [Sample.settings, Sample.pod "p1", Sample.pod "p2"] := by
    simp [calls, Call.objects]
  have hid : Call.Consistent calls := Call.consistent_of_nodup hobjects (by decide)
  have hoccurs : ∀ object, Call.Occurs calls object →
      object = Sample.settings ∨ object = Sample.pod "p1" ∨ object = Sample.pod "p2" := by
    rintro object ⟨call, hm, -, ho⟩
    simpa using hobjects call hm object ho
  have hback : ∀ a b, Call.Occurs calls a → Call.Occurs calls b →
      a.visibleId? true = some group → b.visibleId? true = some "cm" → a.isOwnedBy b = false := by
    intro a b ha hb hau hbv
    rcases hoccurs a ha with rfl | rfl | rfl
    · exact absurd hau (by decide +kernel)
    · rcases hoccurs b hb with rfl | rfl | rfl <;> decide
    · rcases hoccurs b hb with rfl | rfl | rfl <;> decide
  have howned : ∃ call ∈ calls, call.Processes Sample.settings :=
    ⟨.process Sample.settings, by simp [calls], by decide, rfl⟩
  have howner : ∃ call ∈ calls, call.Processes (Sample.pod "p1") :=
    ⟨.process (Sample.pod "p1"), by simp [calls], by decide, rfl⟩
  -- the opposite edge, from the config map, is the one from the smaller identifier
  have hedges := hall true calls Sample.settings (Sample.pod "p1") group "cm" hid howned howner
    (by decide +kernel) (by decide +kernel) (by decide) (by decide)
    ⟨.edge Sample.settings (Sample.pod "p1"), by simp [calls], by decide, Or.inl rfl⟩ hback
  exact absurd hedges.1 (by decide +kernel)

end Recording

end ClusterGraph
