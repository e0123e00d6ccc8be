import ClusterGraph.Proofs.CachedViewer.Background
import ClusterGraph.Proofs.Sample
import ClusterGraph.Proofs.Traversal.Walk

/-!
# Which objects share their graphs

Cache and pending keys are common to all objects, and a key is made from the identifier of an object. So
what is built around one object is handed out for another one, and keeps a build of it from beginning,
exactly when both have the same identifier (`shared_iff_same_id`).

Objects with unique identifiers of their own are apart. Objects without one are identified by API version,
kind and name, which leaves the namespace out.
-/

namespace ClusterGraph

theorem Object.cacheKey_eq_iff {a b : Object} : a.cacheKey = b.cacheKey ↔ a.id = b.id :=
  String.append_right_inj _

/-- Objects that carry the same unique identifier. -/
def Object.SameUid (a b : Object) : Prop :=
  ∃ uid, a.uid? = some uid ∧ b.uid? = some uid

/-- Objects with different names in the sense of the cluster: by group, kind, namespace or name. -/
def Object.DiffersFrom (a b : Object) : Prop :=
  a.group ≠ b.group ∨ a.kind ≠ b.kind ∨ a.namespaceName ≠ b.namespaceName ∨ a.nameAny ≠ b.nameAny

namespace Background

/-- In some run a call for `b` is answered with a graph that was built around `a`. -/
def Serves (viewer : Viewer) (capacity : Nat) (a b : Object) : Prop :=
  ∃ events state graph, Run viewer (initial capacity) events state ∧ .found b ⟨a, graph⟩ ∈ events

/-- In some run the build of `a` is the only one under way, and a refresh of `b` is refused. -/
def Blocks (viewer : Viewer) (capacity : Nat) (a b : Object) : Prop :=
  ∃ events state stage, Run viewer (initial capacity) events state ∧ state.tasks = {⟨a, stage⟩} ∧
    (state.refresh b).1 = false

variable {viewer : Viewer} {capacity : Nat} {state : Background} {events : List Event}
  {a b : Object} {built : BuiltGraph} {graph : Graph}

/-! ## What every run keeps apart

A found graph was cached under the key of the object that asks, and the invariant says around which object
it was built. A refused refresh has met the key of a build. Keys agree exactly if identifiers do, so that
either way the two objects have one identifier. -/

/-- A graph that is found was built around an object with the same identifier. -/
theorem Run.found_origin (h : Run viewer (initial capacity) events state)
    (hm : .found b built ∈ events) :
    built.origin.id = b.id ∧ viewer.visit built.origin false = .ok built.graph := by
  -- by the last step: only `find` shows a graph
  induction h with
  | start => cases hm
  | step hrun hs ih =>
    rcases List.mem_append.1 hm with hm | hm
    · exact ih hm
    · obtain rfl := List.mem_singleton.1 hm
      cases hs with
      | find hc =>
        obtain ⟨hkey, hv⟩ := hrun.invariant.cached hc
        exact ⟨Object.cacheKey_eq_iff.1 hkey, hv⟩

/-- A refresh is refused exactly while a build of an object with the same identifier is under way. -/
theorem Run.refused_iff (h : Run viewer (initial capacity) events state) :
    (state.refresh b).1 = false ↔ ∃ task ∈ state.tasks, task.object.id = b.id := by
  rw [refresh_eq_false_iff, h.invariant.mem_pending_iff]
  exact exists_congr fun task => and_congr_right fun _ => Object.cacheKey_eq_iff

/-! ## Runs in which objects meet

For the converse one run is enough. A build of the first object that has come to its end leaves a graph
for the second one; a build that has just begun keeps a build of the second one from beginning. -/

/-- The run that builds a graph and answers with it. -/
theorem serves_of_same_id (hv : viewer.visit a false = .ok graph) (hid : a.id = b.id) :
    Serves viewer capacity a b := by
  let started := ((initial capacity).refresh a).2
  have hstarted : Run viewer (initial capacity) _ started := Run.start.step (.refresh a)
  have htasks : started.tasks = ⟨a, .building⟩ ::ₘ 0 := rfl
  have hbuilt := hstarted.trans (run_of_graph htasks ⟨false, nofun, hv⟩)
  -- the graph lies under the key that both objects have
  have hfound : (started.cache.insert a.cacheKey ⟨a, graph⟩).value? b.cacheKey = some ⟨a, graph⟩ := by
    rw [← Object.cacheKey_eq_iff.2 hid]
    exact Cache.value?_insert_self
  refine ⟨_, _, graph, hbuilt.step (.find hfound), ?_⟩
  exact List.mem_append_right _ (List.mem_singleton_self _)

theorem blocks_of_same_id (hid : a.id = b.id) : Blocks viewer capacity a b := by
  have hrun : Run viewer (initial capacity) _ _ := Run.start.step (.refresh a)
  have htasks : ((initial capacity).refresh a).2.tasks = {⟨a, .building⟩} := rfl
  refine ⟨_, _, _, hrun, htasks, hrun.refused_iff.2 ⟨⟨a, .building⟩, ?_, hid⟩⟩
  rw [htasks]
  exact Multiset.mem_singleton_self _

/-- Two objects have the same identifier: exactly then a graph that was built around the first one, if
there is one, may be handed out for the second one, and a build of the first one keeps one of the second
one from beginning. -/
theorem shared_iff_same_id (viewer : Viewer) (capacity : Nat) (a b : Object) :
    (Serves viewer capacity a b ↔ a.id = b.id ∧ ∃ graph, viewer.visit a false = .ok graph) ∧
    (Blocks viewer capacity a b ↔ a.id = b.id) := by
  refine ⟨⟨?_, ?_⟩, ⟨?_, blocks_of_same_id⟩⟩
  · rintro ⟨events, state, graph, hrun, hm⟩
    obtain ⟨hid, hv⟩ := hrun.found_origin hm
    exact ⟨hid, graph, hv⟩
  · rintro ⟨hid, graph, hv⟩
    exact serves_of_same_id hv hid
  · rintro ⟨events, state, stage, hrun, htasks, hrefused⟩
    obtain ⟨task, hm, hid⟩ := hrun.refused_iff.1 hrefused
    rw [htasks] at hm
    rwa [Multiset.mem_singleton.1 hm] at hid

/-- Services of one name in two namespaces, without unique identifiers: the graph of one of them is handed
out for the other one, which is not even built while the first one is. -/
theorem services_of_two_namespaces_share :
    (Sample.plain "a").DiffersFrom (Sample.plain "b") ∧
    ¬ (Sample.plain "a").SameUid (Sample.plain "b") ∧
    Serves ⟨Sample.twins, Sample.view⟩ 1 (Sample.plain "a") (Sample.plain "b") ∧
    Blocks ⟨Sample.twins, Sample.view⟩ 1 (Sample.plain "a") (Sample.plain "b") := by
  have hid : (Sample.plain "a").id = (Sample.plain "b").id := by decide +kernel
  have hread : Sample.twins.relations (Sample.plain "a") = .ok [] := rfl
  -- a walk that meets the service alone, so that its graph can be computed
  have hwalk : Sample.twins.walk (Sample.plain "a") false = ⟨[.process (Sample.plain "a")], none⟩ := by
    show Sample.twins.walkFrom ∅ (Sample.plain "a") = _
    rw [Store.walkFrom_of_ok (by decide +kernel) hread]
    show (Sample.twins.explore _ []).after _ = _
    rw [Store.explore]
    rfl
  obtain ⟨graph, hv⟩ : ∃ graph, Viewer.visit ⟨Sample.twins, Sample.view⟩ (Sample.plain "a") false =
      .ok graph := by
    rw [Viewer.visit, Viewer.visitSelecting, hwalk]
    exact Sample.exists_eq_ok (by decide +kernel)
  refine ⟨.inr (.inr (.inl (by decide))), ?_, serves_of_same_id hv hid, blocks_of_same_id hid⟩
  rintro ⟨uid, huid, -⟩
  cases huid

end Background

end ClusterGraph
