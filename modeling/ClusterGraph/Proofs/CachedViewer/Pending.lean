import ClusterGraph.Proofs.CachedViewer.Background
import ClusterGraph.Proofs.Viewer

/-!
# One build for each key

A build takes its key out of the pending ones at its very end, after its graph has gone into the cache or
after it has failed, and calls go on all the while.

* **`ne_placeholder_of_visit`** — a graph that a visit has made is no placeholder.
* **`exists_run_to_end`** — from wherever it is, a build can come to its end; that frees its key.
* **`pending_iff_one_under_way`** — in every state a key is pending exactly while one build with it is
  under way, and what is cached has been built.
-/

namespace ClusterGraph

/-! ## Placeholders

A placeholder is a graph with one node of its own kind. What a visit renders is either a node with a path
or a group with two details, and a placeholder is neither, so that no visit has a placeholder for its
graph. -/

def Node.placeholder (object : Object) : Node where
  name := object.nameAny
  apiVersion := object.apiVersion
  kind := object.kind
  status := .unknown
  details := [.text "Loading"]
  path := none

theorem getElem?_placeholder (object : Object) :
    (Graph.placeholder object).nodes[object.id]? = some (Node.placeholder object) := by
  show ((∅ : Dict Node).insert object.id (Node.placeholder object))[object.id]? = _
  rw [Dict.getElem?_insert, if_pos rfl]

/-- A node of a single object leads somewhere, and that of a group has two details. -/
theorem Recording.ne_placeholder_of_mem_nodeEntries {recording : Recording} {view : View} {id : String}
    {node : Node} (hm : (id, node) ∈ recording.nodeEntries view) (object : Object) :
    node ≠ Node.placeholder object := by
  intro heq
  rcases List.mem_append.1 hm with hm | hm
  · obtain ⟨entry, -, hentry⟩ := List.mem_filterMap.1 hm
    obtain ⟨rendered, hrendered, hpair⟩ := Option.map_eq_some_iff.1 hentry
    obtain ⟨-, rfl⟩ := Prod.mk.inj hpair
    have hpath : rendered.path ≠ none := by
      unfold NodeOutcome.ofObject at hrendered
      split at hrendered
      · cases hrendered
      · split at hrendered
        · cases hrendered
        · cases hrendered
          exact Option.some_ne_none _
    exact hpath (congrArg Node.path heq)
  · -- a group has two details, the placeholder has one
    obtain ⟨key, -, hkey⟩ := List.mem_map.1 hm
    obtain ⟨-, rfl⟩ := Prod.mk.inj hkey
    have hdetails := congrArg (fun node : Node => node.details.length) heq
    simp [Node.ofPods, Node.placeholder] at hdetails

theorem Viewer.ne_placeholder_of_visit {viewer : Viewer} {start : Object} {graph : Graph}
    (h : viewer.visit start false = .ok graph) (object : Object) : graph ≠ .placeholder object := by
  intro heq
  unfold Viewer.visit Viewer.visitSelecting at h
  split at h
  · cases h
  · rename_i recording _
    obtain ⟨hnodes, -⟩ := Recording.graph_eq_ok (mapError_eq_ok.1 h)
    obtain ⟨-, hentries, hnodup⟩ := Recording.nodes_eq_ok hnodes
    -- if the graph were the placeholder, its node would be one that was rendered
    have hfound := getElem?_placeholder object
    rw [← heq, hentries, Dict.getElem?_ofEntries hnodup] at hfound
    exact Recording.ne_placeholder_of_mem_nodeEntries hfound object rfl

namespace Background

variable {viewer : Viewer} {capacity : Nat} {state : Background} {events : List Event} {key : String}

theorem refresh_eq_true_iff {object : Object} :
    (state.refresh object).1 = true ↔ object.cacheKey ∉ state.pending := by
  rw [← refresh_eq_false_iff, Bool.not_eq_false]

/-- However far a build has come, it can come to its end, and then its key is no longer pending. -/
theorem exists_run_to_end (viewer : Viewer) {task : Task} (hm : task ∈ state.tasks) :
    ∃ more next, Run viewer state more next ∧ state.tasks = task ::ₘ next.tasks ∧
      next.pending = state.pending.erase task.key := by
  obtain ⟨rest, ht⟩ := Multiset.exists_cons_of_mem hm
  obtain ⟨object, stage⟩ := task
  cases stage with
  | building =>
    -- the visit may break off at any time
    have hbroken : Results viewer state.shutDown object none := trivial
    have hend : Step viewer state .silent { state with tasks := ⟨object, .closing⟩ ::ₘ rest } :=
      .complete ht hbroken
    exact ⟨_, _, (Run.start.step hend).step (.close rfl), ht, rfl⟩
  | storing graph =>
    have hstored : Step viewer state .silent
        { state with
          cache := state.cache.insert object.cacheKey ⟨object, graph⟩
          tasks := ⟨object, .closing⟩ ::ₘ rest } := .store ht
    exact ⟨_, _, (Run.start.step hstored).step (.close rfl), ht, rfl⟩
  | closing => exact ⟨_, _, Run.start.step (.close ht), ht, rfl⟩

/-- There is one build under way for a pending key, and none for any other. -/
theorem Invariant.count_key (h : Invariant viewer state) (key : String) :
    (state.tasks.map Task.key).count key = if key ∈ state.pending then 1 else 0 := by
  rw [h.keys]
  split
  · rename_i hm
    exact Multiset.count_eq_one_of_mem state.pending.nodup hm
  · rename_i hm
    exact Multiset.count_eq_zero.2 hm

/-- **A key is pending exactly while one build with it is under way**, at every moment, whatever the
builds and calls do:

* a pending key has one build and any other key none, and a refresh begins a build exactly if there is
  none with its key;
* what is cached under a key is the graph of a visit of an object with that key, and no placeholder;
* without builds no key is pending, and each build can come to its end, whether it has failed or not,
  after which its key can be refreshed. -/
theorem pending_iff_one_under_way (h : Run viewer (initial capacity) events state) :
    (∀ key, (state.tasks.map Task.key).count key = if key ∈ state.pending then 1 else 0) ∧
    (∀ object, (state.refresh object).1 = true ↔
      ∀ task ∈ state.tasks, task.key ≠ object.cacheKey) ∧
    (∀ key built, state.cache.value? key = some built →
      built.origin.cacheKey = key ∧ viewer.visit built.origin false = .ok built.graph ∧
        ∀ object, built.graph ≠ .placeholder object) ∧
    (state.tasks = 0 → state.pending = ∅) ∧
    ∀ task ∈ state.tasks, ∃ more next, Run viewer state more next ∧
      state.tasks = task ::ₘ next.tasks ∧
      ∀ object, object.cacheKey = task.key → (next.refresh object).1 = true := by
  have hinv := h.invariant
  refine ⟨hinv.count_key, fun object => ?_, fun key built hc => ?_, fun hnone => ?_,
    fun task hm => ?_⟩
  · rw [refresh_eq_true_iff, hinv.mem_pending_iff]
    exact ⟨fun hno task hm hkey => hno ⟨task, hm, hkey⟩, fun hno ⟨task, hm, hkey⟩ => hno task hm hkey⟩
  · obtain ⟨hkey, hv⟩ := hinv.cached hc
    exact ⟨hkey, hv, Viewer.ne_placeholder_of_visit hv⟩
  · -- without builds there are no keys of builds
    have hkeys := hinv.keys
    rw [hnone, Multiset.map_zero] at hkeys
    exact Finset.val_eq_zero.1 hkeys.symm
  · obtain ⟨more, next, hrun, ht, hpending⟩ := exists_run_to_end viewer hm
    refine ⟨more, next, hrun, ht, fun object hkey => refresh_eq_true_iff.2 ?_⟩
    rw [hpending, hkey]
    exact Finset.notMem_erase _ _

/-- A build breaks off. Until it has let go of its key, calls for the object are answered with the
placeholder and begin no second build; then the next one does. -/
theorem pending_iff_one_under_way_of_broken :
    let viewer : Viewer := ⟨Sample.twins, Sample.view⟩
    let a := Sample.plain "a"
    ∃ events broken closed, Run viewer (initial 1) events broken ∧
      .refreshed a true ∈ events ∧ .loading a ∈ events ∧ Step viewer broken .silent closed ∧
      (broken.tasks.map Task.key).count a.cacheKey = 1 ∧ (broken.refresh a).1 = false ∧
      closed.pending = ∅ ∧ (closed.refresh a).1 = true := by
  intro viewer a
  let started : Background :=
    { initial 1 with pending := {a.cacheKey}, tasks := {⟨a, .building⟩} }
  let asked : Background := { started with cache := (started.cache.get a.cacheKey).2 }
  let broken : Background := { asked with tasks := {⟨a, .closing⟩} }
  have hstart : Step viewer (initial 1) (.refreshed a true) started := .refresh a
  have hmiss : Step viewer started .silent { asked with callers := a ::ₘ 0 } :=
    .miss (Cache.value?_empty 1)
  have hload : Step viewer { asked with callers := a ::ₘ 0 } (.loading a) asked := by
    -- the key is pending, so that the call that found nothing begins nothing
    have hwait : (asked.refresh a).2 = asked :=
      congrArg Prod.snd (if_pos (Finset.mem_singleton_self a.cacheKey))
    rw [← hwait]
    exact .load rfl
  have hresult : Results viewer asked.shutDown a none := trivial
  have hbreak : Step viewer asked .silent broken := .complete rfl hresult
  have hrun := (((Run.start.step hstart).step hmiss).step hload).step hbreak
  have hclose : Step viewer broken .silent
      { broken with pending := broken.pending.erase a.cacheKey, tasks := 0 } := .close rfl
  -- what holds of every state is read off before the key is let go and after it
  obtain ⟨hcount, hrefresh, -, -, -⟩ := pending_iff_one_under_way hrun
  obtain ⟨-, hrefresh', -, hnone, -⟩ := pending_iff_one_under_way (hrun.step hclose)
  refine ⟨_, broken, _, hrun, by simp, by simp, hclose, ?_, ?_, hnone rfl, ?_⟩
  · rw [hcount, if_pos]
    exact Finset.mem_singleton_self _
  · refine Bool.eq_false_iff.2 fun htrue => ?_
    exact (hrefresh a).1 htrue ⟨a, .closing⟩ (Multiset.mem_singleton_self _) rfl
  · refine (hrefresh' a).2 fun task hm => ?_
    exact absurd hm (Multiset.notMem_zero task)

end Background

end ClusterGraph
