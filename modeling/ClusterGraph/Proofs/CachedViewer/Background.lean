import Mathlib.Data.Finset.Erase
import Mathlib.Data.Finset.Insert
import Mathlib.Data.Multiset.MapFold
import ClusterGraph.CachedViewer
import ClusterGraph.Proofs.Cache

/-!
# Builds in the background

The builds of a cached viewer run beside its calls, and what a build does at its end takes several moments.
Here any of these steps may come next (`Step`):

* a call of `refresh` marks the key of its object as pending and begins a build, unless the key is marked;
* a call of `component` looks into the cache and answers with what it finds; if it finds nothing it goes
  on, at any later moment, to refresh the object and answers with the placeholder;
* a build ends with a graph, with an error, or without any result;
* a graph that was built goes into the cache;
* a build for which there is nothing more to do takes its key out of the pending ones;
* a shutdown cancels the visits that are under way and all later ones.

Each cached graph carries the object around which it was built. That is for reading only: no step depends
on it (`Proofs/CachedViewer/Simulation` takes it away again).

`Invariant` is what all steps keep: a pending key is the key of exactly one build under way, and what is
cached under a key is the graph of an object with that key.
-/

namespace ClusterGraph

/-- A graph with the object around which it was built. -/
structure BuiltGraph where
  origin : Object
  graph : Graph

/-- How far a build has come. -/
inductive Stage where
  /-- The visit is not over. -/
  | building
  /-- The graph is there, but not yet in the cache. -/
  | storing (graph : Graph)
  /-- All that is left is to take the key out of the pending ones. -/
  | closing

/-- A build under way. -/
structure Task where
  object : Object
  stage : Stage

def Task.key (task : Task) : String :=
  task.object.cacheKey

namespace Stage

/-- What is left to do after a visit, depending on its result; none at all if the visit broke off. -/
def after : Option (Except ViewError Graph) → Stage
  | some (.ok graph) => storing graph
  | some (.error _) => closing
  | none => closing

theorem after_eq_storing {result : Option (Except ViewError Graph)} {graph : Graph}
    (h : storing graph = after result) : result = some (.ok graph) := by
  match result, h with
  | some (.ok _), h => rw [storing.inj h]

end Stage

/-- A cached viewer between two steps. The callers are the objects that were looked for in vain and are
still to be refreshed. -/
structure Background where
  cache : Cache BuiltGraph
  pending : Finset String := ∅
  tasks : Multiset Task := 0
  callers : Multiset Object := 0
  shutDown : Bool := false

namespace Background

def initial (capacity : Nat) : Background where
  cache := .empty capacity

/-- Marks the key of an object and begins a build, unless the key is marked. Says whether it did. -/
def refresh (state : Background) (object : Object) : Bool × Background :=
  if object.cacheKey ∈ state.pending then (false, state)
  else
    (true,
      { state with
        pending := insert object.cacheKey state.pending
        tasks := ⟨object, .building⟩ ::ₘ state.tasks })

/-- What a step shows to the callers. -/
inductive Event where
  /-- A call of `refresh` returns. -/
  | refreshed (object : Object) (started : Bool)
  /-- A call of `component` returns a graph from the cache. -/
  | found (object : Object) (built : BuiltGraph)
  /-- A call of `component` returns the placeholder. -/
  | loading (object : Object)
  | silent

/-- A result of a visit; only after a shutdown may the visit have been cancelled, and one that is cancelled
half-way ends as one that was cancelled at its beginning. A visit that breaks off has no result. -/
def Results (viewer : Viewer) (shutDown : Bool) (object : Object) :
    Option (Except ViewError Graph) → Prop
  | some result => ∃ cancelled, (cancelled = true → shutDown = true) ∧
      viewer.visit object cancelled = result
  | none => True

inductive Step (viewer : Viewer) (state : Background) : Event → Background → Prop where
  | refresh (object : Object) :
      Step viewer state (.refreshed object (state.refresh object).1) (state.refresh object).2
  | find {object : Object} {built : BuiltGraph}
      (hc : state.cache.value? object.cacheKey = some built) :
      Step viewer state (.found object built)
        { state with cache := (state.cache.get object.cacheKey).2 }
  | miss {object : Object} (hc : state.cache.value? object.cacheKey = none) :
      Step viewer state .silent
        { state with
          cache := (state.cache.get object.cacheKey).2
          callers := object ::ₘ state.callers }
  | load {object : Object} {callers : Multiset Object} (hw : state.callers = object ::ₘ callers) :
      Step viewer state (.loading object) ({ state with callers }.refresh object).2
  | complete {object : Object} {result : Option (Except ViewError Graph)} {tasks : Multiset Task}
      (ht : state.tasks = ⟨object, .building⟩ ::ₘ tasks)
      (hr : Results viewer state.shutDown object result) :
      Step viewer state .silent { state with tasks := ⟨object, .after result⟩ ::ₘ tasks }
  | store {object : Object} {graph : Graph} {tasks : Multiset Task}
      (ht : state.tasks = ⟨object, .storing graph⟩ ::ₘ tasks) :
      Step viewer state .silent
        { state with
          cache := state.cache.insert object.cacheKey ⟨object, graph⟩
          tasks := ⟨object, .closing⟩ ::ₘ tasks }
  | close {object : Object} {tasks : Multiset Task}
      (ht : state.tasks = ⟨object, .closing⟩ ::ₘ tasks) :
      Step viewer state .silent
        { state with pending := state.pending.erase object.cacheKey, tasks }
  | shutDown : Step viewer state .silent { state with shutDown := true }

/-- Steps one after another, with what they show. -/
inductive Run (viewer : Viewer) (first : Background) : List Event → Background → Prop where
  | start : Run viewer first [] first
  | step {events : List Event} {state next : Background} {event : Event}
      (h : Run viewer first events state) (hs : Step viewer state event next) :
      Run viewer first (events ++ [event]) next

variable {viewer : Viewer} {capacity : Nat} {first state next : Background} {event : Event}
  {events : List Event}

theorem Run.trans {more : List Event} (h : Run viewer first events state)
    (hm : Run viewer state more next) : Run viewer first (events ++ more) next := by
  -- by the second run, since runs grow at their end
  induction hm with
  | start => rwa [List.append_nil]
  | step _ hs ih =>
    rw [← List.append_assoc]
    exact ih.step hs

/-! ## A build from its beginning to its end

A build takes its steps one after another, and other steps may come in between. When nothing else moves,
they make one run: three steps for a graph, two for a failure. Calls that are made one at a time are put
together from these runs. -/

theorem run_of_graph {object : Object} {graph : Graph} {tasks : Multiset Task}
    (ht : state.tasks = ⟨object, .building⟩ ::ₘ tasks)
    (hr : Results viewer state.shutDown object (some (.ok graph))) :
    Run viewer state [.silent, .silent, .silent]
      { state with
        cache := state.cache.insert object.cacheKey ⟨object, graph⟩
        pending := state.pending.erase object.cacheKey
        tasks } := by
  have hstore : Step viewer { state with tasks := ⟨object, .storing graph⟩ ::ₘ tasks } .silent
      { state with
        cache := state.cache.insert object.cacheKey ⟨object, graph⟩
        tasks := ⟨object, .closing⟩ ::ₘ tasks } := .store rfl
  exact ((Run.start.step (.complete ht hr)).step hstore).step (.close rfl)

theorem run_of_failure {object : Object} {error : ViewError} {tasks : Multiset Task}
    (ht : state.tasks = ⟨object, .building⟩ ::ₘ tasks)
    (hr : Results viewer state.shutDown object (some (.error error))) :
    Run viewer state [.silent, .silent]
      { state with pending := state.pending.erase object.cacheKey, tasks } :=
  (Run.start.step (.complete ht hr)).step (.close rfl)

/-! ## What all steps keep

A build is in the tasks exactly while its key is pending. The graph of a task that is about to be stored,
and with it what is cached later, has to be the graph of the object of that task. Both are kept by one
case for each step, and so along every run. -/

/-- A visit that was cancelled has no graph. -/
theorem visit_cancelled (viewer : Viewer) (object : Object) :
    viewer.visit object true = .error (.visit object.kind object.nameAny .cancelled) := rfl

/-- The graph of a visit does not depend on when it was built. -/
theorem Results.visit_eq {shutDown : Bool} {object : Object} {graph : Graph}
    (h : Results viewer shutDown object (some (.ok graph))) :
    viewer.visit object false = .ok graph := by
  obtain ⟨cancelled, -, hv⟩ := h
  cases cancelled with
  | false => exact hv
  | true => rw [visit_cancelled] at hv; cases hv

structure Invariant (viewer : Viewer) (state : Background) : Prop where
  /-- The keys of the builds under way, each as often as there are builds with it, are the pending ones,
  each once. -/
  keys : state.tasks.map Task.key = state.pending.val
  /-- What is cached under a key is the graph of an object with that key. -/
  cached : ∀ {key : String} {built : BuiltGraph}, state.cache.value? key = some built →
    built.origin.cacheKey = key ∧ viewer.visit built.origin false = .ok built.graph
  /-- What is about to be cached is the graph of the object of the build. -/
  built : ∀ {object : Object} {graph : Graph}, ⟨object, .storing graph⟩ ∈ state.tasks →
    viewer.visit object false = .ok graph

theorem invariant_initial (viewer : Viewer) (capacity : Nat) :
    Invariant viewer (initial capacity) where
  keys := rfl
  cached h := by simp [initial] at h
  built h := by simp [initial] at h

theorem Invariant.refresh (h : Invariant viewer state) (object : Object) :
    Invariant viewer (state.refresh object).2 := by
  unfold Background.refresh
  split
  · -- the key is pending, and nothing changes
    exact h
  · rename_i hnew
    refine ⟨?_, h.cached, fun hm => ?_⟩
    · rw [Multiset.map_cons, h.keys, Finset.insert_val_of_notMem hnew]
      rfl
    · rcases Multiset.mem_cons.1 hm with heq | hm
      · cases heq
      · exact h.built hm

theorem Invariant.step (h : Invariant viewer state) (hs : Step viewer state event next) :
    Invariant viewer next := by
  cases hs with
  | refresh object => exact h.refresh object
  | find hc => exact ⟨h.keys, fun hv => h.cached (by rwa [Cache.value?_get] at hv), h.built⟩
  | miss hc => exact ⟨h.keys, fun hv => h.cached (by rwa [Cache.value?_get] at hv), h.built⟩
  | @load object callers hw =>
    have hcallers : Invariant viewer { state with callers } := ⟨h.keys, h.cached, h.built⟩
    exact hcallers.refresh object
  | complete ht hr =>
    refine ⟨?_, h.cached, fun hm => ?_⟩
    · -- the build is in another stage, under the same key
      rw [← h.keys, ht, Multiset.map_cons, Multiset.map_cons]
      rfl
    · -- what is stored next is the result of this visit, or it is the result of another one
      rcases Multiset.mem_cons.1 hm with heq | hm
      · obtain ⟨rfl, hstage⟩ := Task.mk.inj heq
        rw [Stage.after_eq_storing hstage] at hr
        exact hr.visit_eq
      · exact h.built (ht ▸ Multiset.mem_cons_of_mem hm)
  | store ht =>
    refine ⟨?_, fun hv => ?_, fun hm => ?_⟩
    · rw [← h.keys, ht, Multiset.map_cons, Multiset.map_cons]
      rfl
    · -- what is found after an insertion is either new or was there before, since room is only made
      rcases Cache.value?_insert_eq_some hv with ⟨rfl, rfl⟩ | hv
      · exact ⟨rfl, h.built (ht ▸ Multiset.mem_cons_self _ _)⟩
      · exact h.cached hv
    · rcases Multiset.mem_cons.1 hm with heq | hm
      · -- this build has its visit behind it and stores nothing more
        cases heq
      · exact h.built (ht ▸ Multiset.mem_cons_of_mem hm)
  | close ht =>
    refine ⟨?_, h.cached, fun hm => h.built (ht ▸ Multiset.mem_cons_of_mem hm)⟩
    -- the build and its key go at once, and no other build has the key
    rw [Finset.erase_val, ← h.keys, ht, Multiset.map_cons]
    exact (Multiset.erase_cons_head _ _).symm
  | shutDown => exact ⟨h.keys, h.cached, h.built⟩

theorem Invariant.run (hi : Invariant viewer first) (h : Run viewer first events state) :
    Invariant viewer state := by
  induction h with
  | start => exact hi
  | step _ hs ih => exact ih.step hs

theorem Run.invariant (h : Run viewer (initial capacity) events state) : Invariant viewer state :=
  (invariant_initial viewer capacity).run h

/-! ## What follows for pending keys

Whether a key is pending can be read off the builds under way, and whether a refresh is refused can be
read off the pending keys. -/

/-- A key is pending exactly while a build with that key is under way. -/
theorem Invariant.mem_pending_iff (h : Invariant viewer state) {key : String} :
    key ∈ state.pending ↔ ∃ task ∈ state.tasks, task.key = key := by
  rw [← Finset.mem_val, ← h.keys, Multiset.mem_map]

theorem refresh_eq_false_iff {object : Object} :
    (state.refresh object).1 = false ↔ object.cacheKey ∈ state.pending := by
  unfold Background.refresh
  split <;> simp [*]

end Background

end ClusterGraph
