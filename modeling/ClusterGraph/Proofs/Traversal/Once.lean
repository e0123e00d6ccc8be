import Mathlib.Data.List.Nodup
import ClusterGraph.Proofs.Traversal.Walk

/-!
# Each object is visited once

Relations may lead round in circles, and several objects may share an identifier. A walk comes to an end
all the same, since it marks the identifier of each object that it visits:

* **`ProcessesOnce`** — no identifier is processed twice, so that there are at most as many visits as
  there are objects in the store, and one more for the start.
* **`Closed`** — a walk without failure has processed everything that its calls mention, also where an
  object was passed over because another one with its identifier had left the mark.
* **`walk_processes_once`** — this holds of the walk, whatever its receiver refuses, and of every run in
  which the visits take their steps side by side; and no such run goes on for ever.

For the walk the proof follows its recursion, and `Explored` is what is known of the rest of a walk at
each point. For the runs, marks and processed identifiers are the same at any moment (`Marked`), and
whatever a call mentions is marked, or will be (`Mentioned`).
-/

namespace ClusterGraph

namespace Trace

variable {store : Store} {trace : Trace}

/-- The identifiers of the processed objects, in the order of their visits. -/
def processedIds (trace : Trace) : List String :=
  trace.processed.map Object.id

/-- No identifier is processed twice, and no more objects than there are. -/
structure ProcessesOnce (trace : Trace) (store : Store) : Prop where
  once : trace.processedIds.Nodup
  atMost : trace.processedIds.length ≤ store.objects.length + 1

/-- Each object that a call mentions has been processed, under its identifier. -/
def Closed (trace : Trace) : Prop :=
  ∀ call ∈ trace.calls, ∀ object ∈ call.objects, object.id ∈ trace.processedIds

theorem processedIds_done : Trace.done.processedIds = [] := rfl

theorem processedIds_error (object : Object) (error : VisitError) :
    (Trace.mk [.process object] (some error)).processedIds = [object.id] := rfl

theorem processedIds_append (calls more : List Call) (failure : Option VisitError) :
    (Trace.mk (calls ++ more) failure).processedIds =
      (Trace.mk calls failure).processedIds ++ (Trace.mk more failure).processedIds := by
  simp [processedIds, processed]

/-- A visit processes its object and nothing else; what follows comes after it. -/
theorem processedIds_after_visitCalls (object : Object) (relations : List Relation) (trace : Trace) :
    (trace.after (Store.visitCalls object relations)).processedIds =
      object.id :: trace.processedIds := by
  have hedges : (Trace.mk (relations.map (·.call object)) trace.failure).processedIds = [] := by
    simp [processedIds, processed, Relation.call]
  show (Trace.mk ((.process object :: relations.map (·.call object)) ++ trace.calls)
    trace.failure).processedIds = _
  rw [processedIds_append]
  show object.id :: (Trace.mk (relations.map (·.call object)) trace.failure).processedIds ++ _ = _
  rw [hedges]
  rfl

theorem mem_processed {object : Object} :
    object ∈ trace.processed ↔ .process object ∈ trace.calls := by
  unfold processed
  rw [List.mem_filterMap]
  constructor
  · rintro ⟨call, hm, hc⟩
    cases call with
    | process other => cases hc; exact hm
    | edge parent child => cases hc
  · exact fun hm => ⟨_, hm, rfl⟩

theorem mem_processedIds {id : String} :
    id ∈ trace.processedIds ↔ ∃ object, .process object ∈ trace.calls ∧ object.id = id := by
  simp only [processedIds, List.mem_map, mem_processed]

/-! ## Refused calls

A receiver that refuses a call cuts the walk off there. What is said of all calls of a walk holds of the
first ones too, and a walk that was cut off has failed. -/

theorem takeUntil_isPrefix {ε : Type} (refuse : Call → Option ε) (calls : List Call) :
    (takeUntil refuse calls).1 <+: calls := by
  induction calls with
  | nil => exact List.prefix_rfl
  | cons call rest ih =>
    unfold takeUntil
    cases refuse call with
    | some error => exact (List.prefix_cons_inj call).2 List.nil_prefix
    | none => exact (List.prefix_cons_inj call).2 ih

/-- A refused call cuts the walk off, and then the walk has failed; else nothing changes. -/
theorem upTo_cases (trace : Trace) (refuse : Call → Option GraphError) :
    trace.upTo refuse = trace ∨
      (trace.upTo refuse).calls <+: trace.calls ∧ (trace.upTo refuse).failure ≠ none := by
  have hearlier := takeUntil_isPrefix refuse trace.calls
  unfold upTo
  generalize takeUntil refuse trace.calls = cut at hearlier ⊢
  obtain ⟨calls, _ | error⟩ := cut
  · exact Or.inl rfl
  · exact Or.inr ⟨hearlier, Option.some_ne_none _⟩

theorem ProcessesOnce.of_isPrefix {shorter : Trace} (h : trace.ProcessesOnce store)
    (hp : shorter.calls <+: trace.calls) : shorter.ProcessesOnce store := by
  have hsub : shorter.processedIds.Sublist trace.processedIds :=
    (hp.sublist.filterMap _).map Object.id
  exact ⟨h.once.sublist hsub, hsub.length_le.trans h.atMost⟩

theorem ProcessesOnce.upTo (h : trace.ProcessesOnce store) (refuse : Call → Option GraphError) :
    (trace.upTo refuse).ProcessesOnce store := by
  rcases trace.upTo_cases refuse with heq | ⟨hp, -⟩
  · rwa [heq]
  · exact h.of_isPrefix hp

theorem closed_upTo (h : trace.failure = none → trace.Closed) (refuse : Call → Option GraphError)
    (hf : (trace.upTo refuse).failure = none) : (trace.upTo refuse).Closed := by
  rcases trace.upTo_cases refuse with heq | ⟨-, hne⟩
  · rw [heq] at hf ⊢
    exact h hf
  · exact absurd hf hne

end Trace

/-! ## The walk

The recursion passes marks on to the rest of the walk, so that what is known of the rest has to mention
them: identifiers it processes are none of those marked, and what it settles is marked already or
processed by it. `Explored.visit` is the step of the induction. -/

namespace Store

variable {store : Store} {visited : Keys} {limit : Nat}

/-- What is known of a walk that visits some pending objects, when some identifiers are marked and a
limited number of visits is left. -/
structure Explored (visited : Keys) (limit : Nat) (pending : List Object) (trace : Trace) : Prop where
  once : trace.processedIds.Nodup
  fresh : ∀ id ∈ trace.processedIds, id ∉ visited
  atMost : trace.processedIds.length ≤ limit
  pending : trace.failure = none → ∀ object ∈ pending,
    object.id ∈ visited ∨ object.id ∈ trace.processedIds
  closed : trace.failure = none → ∀ call ∈ trace.calls, ∀ object ∈ call.objects,
    object.id ∈ visited ∨ object.id ∈ trace.processedIds

theorem explored_done (visited : Keys) (limit : Nat) : Explored visited limit [] .done where
  once := List.nodup_nil
  fresh := by simp [Trace.processedIds_done]
  atMost := Nat.zero_le limit
  pending := by simp
  closed := by simp [Trace.done]

/-- What is marked already is passed over. -/
theorem Explored.skip {object : Object} {rest : List Object} {trace : Trace}
    (h : Explored visited limit rest trace) (hm : object.id ∈ visited) :
    Explored visited limit (object :: rest) trace where
  once := h.once
  fresh := h.fresh
  atMost := h.atMost
  pending hf other ho := by
    rcases List.mem_cons.1 ho with rfl | ho
    · exact Or.inl hm
    · exact h.pending hf other ho
  closed := h.closed

theorem explored_error {object : Object} (hnew : object.id ∉ visited) (hl : 1 ≤ limit)
    (pending : List Object) (error : VisitError) :
    Explored visited limit pending ⟨[.process object], some error⟩ where
  once := by simp [Trace.processedIds_error]
  fresh id hid := by
    rw [Trace.processedIds_error, List.mem_singleton] at hid
    rwa [hid]
  atMost := by simpa [Trace.processedIds_error] using hl
  pending hf := by cases hf
  closed hf := by cases hf

/-- **One visit.** Its object is marked, and its related objects are visited before the others. -/
theorem Explored.visit {object : Object} {relations : List Relation} {rest : List Object}
    {trace : Trace}
    (h : Explored (visited.insert object.id) limit (relations.map Relation.object ++ rest) trace)
    (hnew : object.id ∉ visited) :
    Explored visited (limit + 1) (object :: rest) (trace.after (visitCalls object relations)) := by
  have hids := Trace.processedIds_after_visitCalls object relations trace
  have hmarked : ∀ {id : String}, id ∈ visited.insert object.id ↔ object.id = id ∨ id ∈ visited := by
    simp
  -- a mark is an old one, or the one of this visit
  have hsettled : ∀ {id : String}, id ∈ visited.insert object.id ∨ id ∈ trace.processedIds →
      id ∈ visited ∨ id ∈ (trace.after (visitCalls object relations)).processedIds := by
    intro id hid
    rw [hids, List.mem_cons]
    rcases hid with hid | hid
    · rcases hmarked.1 hid with rfl | hid
      · exact Or.inr (Or.inl rfl)
      · exact Or.inl hid
    · exact Or.inr (Or.inr hid)
  have hobject : object.id ∈ visited.insert object.id := hmarked.2 (Or.inl rfl)
  refine ⟨?_, ?_, ?_, fun hf other ho => hsettled ?_, fun hf call hc other ho => hsettled ?_⟩
  · rw [hids]
    exact List.nodup_cons.2 ⟨fun hm => h.fresh _ hm hobject, h.once⟩
  · intro id hid
    rw [hids] at hid
    rcases List.mem_cons.1 hid with rfl | hid
    · exact hnew
    · exact fun hv => h.fresh id hid (hmarked.2 (Or.inr hv))
  · rw [hids, List.length_cons]
    exact Nat.succ_le_succ h.atMost
  · rcases List.mem_cons.1 ho with rfl | ho
    · exact Or.inl hobject
    · exact h.pending hf other (List.mem_append_right _ ho)
  · rcases List.mem_append.1 hc with hc | hc
    · -- the calls of the visit itself mention its object and the related ones
      rcases List.mem_cons.1 hc with rfl | hc
      · rw [List.mem_singleton.1 ho]
        exact Or.inl hobject
      · obtain ⟨relation, hr, rfl⟩ := List.mem_map.1 hc
        rcases Relation.mem_objects_call.1 ho with rfl | rfl
        · exact Or.inl hobject
        · refine h.pending hf _ (List.mem_append_left _ ?_)
          exact List.mem_map.2 ⟨relation, hr, rfl⟩
    · exact h.closed hf call hc other ho

theorem Explored.mono {pending : List Object} {trace : Trace} {more : Nat}
    (h : Explored visited limit pending trace) (hl : limit ≤ more) :
    Explored visited more pending trace :=
  ⟨h.once, h.fresh, h.atMost.trans hl, h.pending, h.closed⟩

theorem map_val_related {object : Object} {relations : List Relation}
    (h : store.relations object = .ok relations)
    (rest : List { object : Object // object ∈ store.objects }) :
    (store.related object relations h ++ rest).map (·.val) =
      relations.map Relation.object ++ rest.map (·.val) := by
  have hval : relations.attach.map (fun relation => relation.val.object) =
      relations.map Relation.object := List.attach_map_val
  rw [List.map_append, related, List.map_map, ← hval]
  rfl

/-- The walk over pending objects visits no more objects than are unmarked. -/
theorem explored_explore (visited : Keys)
    (pending : List { object : Object // object ∈ store.objects }) :
    Explored visited (store.unvisited visited).length (pending.map (·.val))
      (store.explore visited pending) := by
  -- along the recursion: nothing is pending, or the first object is marked, unreadable or to be visited
  induction visited, pending using Store.explore.induct store with
  | case1 visited =>
    rw [explore]
    exact explored_done visited _
  | case2 visited object hm rest hc ih =>
    have hseen : object.id ∈ visited := Std.ExtTreeSet.mem_iff_contains.2 hc
    rw [explore_of_visited hseen]
    exact ih.skip hseen
  | case3 visited object hm rest hc error hr =>
    have hnew : object.id ∉ visited := fun h => hc (Std.ExtTreeSet.mem_iff_contains.1 h)
    have hlt := length_unvisited_insert_lt hm (Bool.eq_false_iff.2 hc)
    rw [explore_of_error hnew hr]
    exact explored_error hnew (by omega) _ error
  | case4 visited object hm rest hc relations hr ih =>
    have hnew : object.id ∉ visited := fun h => hc (Std.ExtTreeSet.mem_iff_contains.1 h)
    have hlt := length_unvisited_insert_lt hm (Bool.eq_false_iff.2 hc)
    rw [explore_of_ok hnew hr]
    rw [map_val_related] at ih
    exact (ih.visit hnew).mono (by omega)

/-- The start need not be an object of the store, so that it takes one visit more. -/
theorem explored_walkFrom (store : Store) (visited : Keys) (start : Object) :
    Explored visited (store.objects.length + 1) [start] (store.walkFrom visited start) := by
  by_cases hm : start.id ∈ visited
  · have hdone : store.walkFrom visited start = .done := by
      rw [walkFrom, if_pos (Std.ExtTreeSet.mem_iff_contains.1 hm)]
    rw [hdone]
    exact (explored_done visited _).skip hm
  · cases hr : store.relations start with
    | error error =>
      rw [walkFrom_of_error hm hr]
      exact explored_error hm (by omega) _ error
    | ok relations =>
      have hexplored := explored_explore (visited.insert start.id) (store.related start relations hr)
      have hpending := map_val_related hr []
      rw [List.append_nil, List.map_nil] at hpending
      rw [hpending] at hexplored
      have hle : (store.unvisited (visited.insert start.id)).length ≤ store.objects.length :=
        List.length_filter_le _ _
      rw [walkFrom_of_ok hm hr]
      exact (hexplored.mono hle).visit hm

end Store

/-! ## Visits side by side

The shared marks are what keeps a second visit of an identifier from beginning, in whichever branch it is
pending. So it is enough to know that marks and processed identifiers are the same at any moment. -/

/-- The related objects that a visit has reported and not yet handed on. -/
def Visit.reported : Visit → List Object
  | pending _ => []
  | entered _ => []
  | reporting _ reported _ => reported.map Relation.object

namespace Exploration

variable {store : Store} {grouping : Bool} {start : Object} {state next : Exploration}

/-- The calls that have been made by now, and what ended the exploration early. -/
def trace (state : Exploration) : Trace :=
  ⟨state.calls, state.failure⟩

theorem processedIds_tell (state : Exploration) (grouping : Bool) (call : Call) :
    (state.tell grouping call).trace.processedIds =
      state.trace.processedIds ++ (Trace.mk [call] none).processedIds := by
  show (Trace.mk (state.tell grouping call).calls none).processedIds = _
  rw [calls_tell, Trace.processedIds_append]
  rfl

/-- A step marks an object and has it processed, or it does neither. -/
theorem Step.marks (hs : Step store grouping state next) :
    (next.visited = state.visited ∧ next.trace.processedIds = state.trace.processedIds) ∨
      ∃ object, .pending object ∈ state.visits ∧ object.id ∉ state.visited ∧
        next.visited = state.visited.insert object.id ∧
        next.trace.processedIds = state.trace.processedIds ++ [object.id] := by
  cases hs with
  | skip => exact Or.inl ⟨rfl, rfl⟩
  | @enter object rest _ hv hm =>
    refine Or.inr ⟨object, by simp [hv], hm, visited_tell _ _ _, ?_⟩
    rw [processedIds_tell]
    rfl
  | read => exact Or.inl ⟨rfl, rfl⟩
  | fail => exact Or.inl ⟨rfl, rfl⟩
  | report =>
    refine Or.inl ⟨visited_tell _ _ _, ?_⟩
    rw [processedIds_tell]
    exact List.append_nil _
  | spread => exact Or.inl ⟨rfl, rfl⟩

/-- Exactly what has been processed is marked, each identifier once, and all of it comes from the store
or the start. -/
structure Marked (store : Store) (start : Object) (state : Exploration) : Prop where
  once : state.trace.processedIds.Nodup
  mem_visited_iff : ∀ id, id ∈ state.visited ↔ id ∈ state.trace.processedIds
  known : ∀ id ∈ state.trace.processedIds, id ∈ (start :: store.objects).map Object.id

theorem Marked.step (h : Marked store start state) (hinv : Invariant store grouping start state)
    (hs : Step store grouping state next) : Marked store start next := by
  rcases hs.marks with ⟨hv, hp⟩ | ⟨object, hm, hnew, hv, hp⟩
  · refine ⟨?_, fun id => ?_, ?_⟩
    · rw [hp]; exact h.once
    · rw [hv, hp]; exact h.mem_visited_iff id
    · rw [hp]; exact h.known
  · -- what is pending is reached from the start, so that its identifier is a known one
    have hreach : store.Reaches start object := hinv.reached (.pending object) hm
    refine ⟨?_, fun id => ?_, fun id hid => ?_⟩
    · rw [hp]
      refine List.nodup_append.2 ⟨h.once, List.nodup_singleton _, fun a ha b hb hab => ?_⟩
      rw [List.mem_singleton.1 hb] at hab
      exact hnew ((h.mem_visited_iff _).2 (hab ▸ ha))
    · have hmarked : id ∈ next.visited ↔ object.id = id ∨ id ∈ state.visited := by
        rw [hv]
        simp
      rw [hmarked, hp, List.mem_append, List.mem_singleton, h.mem_visited_iff id, or_comm, eq_comm]
    · rw [hp, List.mem_append, List.mem_singleton] at hid
      rcases hid with hid | rfl
      · exact h.known id hid
      · exact List.mem_map.2 ⟨object, hreach.mem, rfl⟩

theorem Run.marked (h : Run store grouping start state) : Marked store start state := by
  induction h with
  | refl => exact ⟨List.nodup_nil, by simp [initial, trace, Trace.processedIds, Trace.processed],
      by simp [initial, trace, Trace.processedIds, Trace.processed]⟩
  -- the step may end in a failure; the invariant is only needed before it
  | tail hrun hs ih => exact ih.step (Run.invariant hrun hs.failure_eq_none) hs

theorem Marked.processesOnce (h : Marked store start state) : state.trace.ProcessesOnce store := by
  -- different identifiers, all of them known, are no more than the known ones
  have hle := (h.once.subperm h.known).length_le
  rw [List.length_map, List.length_cons] at hle
  exact ⟨h.once, hle⟩

/-- Whatever a call mentions is marked, or pending, or will be pending when the visit that has reported it
is over. -/
def Mentioned (state : Exploration) : Prop :=
  ∀ call ∈ state.calls, ∀ object ∈ call.objects,
    state.Covered object ∨ ∃ visit ∈ state.visits, object ∈ visit.reported

/-- One visit gives way to others, which answer for what it has reported and for what new calls
mention. -/
theorem Mentioned.replace (h : state.Mentioned) (hext : state.Extends next) {visit : Visit}
    {rest : Multiset Visit} (hv : state.visits = visit ::ₘ rest) (more : Multiset Visit)
    (hv' : next.visits = more + rest)
    (hreported : ∀ object ∈ visit.reported,
      next.Covered object ∨ ∃ other ∈ more, object ∈ other.reported)
    (hcalls : ∀ call ∈ next.calls, call ∈ state.calls ∨ ∀ object ∈ call.objects,
      next.Covered object ∨ ∃ other ∈ more, object ∈ other.reported) : next.Mentioned := by
  have hmore : ∀ {object : Object},
      (next.Covered object ∨ ∃ other ∈ more, object ∈ other.reported) →
      next.Covered object ∨ ∃ other ∈ next.visits, object ∈ other.reported := by
    intro object ho
    refine ho.imp_right fun ⟨other, hm, ho⟩ => ⟨other, ?_, ho⟩
    rw [hv']
    exact Multiset.mem_add.2 (Or.inl hm)
  -- an old call is covered as before, by this visit or by one of the rest
  intro call hc object ho
  rcases hcalls call hc with hold | hnew
  · rcases h call hold object ho with hcovered | ⟨other, hm, hother⟩
    · exact Or.inl (hext.covered hcovered)
    · rw [hv, Multiset.mem_cons] at hm
      rcases hm with rfl | hm
      · exact hmore (hreported object hother)
      · refine Or.inr ⟨other, ?_, hother⟩
        rw [hv']
        exact Multiset.mem_add.2 (Or.inr hm)
  · exact hmore (hnew object ho)

theorem Mentioned.step (h : state.Mentioned) (hinv : Invariant store grouping start state)
    (hmarked : Marked store start state) (hs : Step store grouping state next) :
    next.Mentioned := by
  have hext := hs.extends
  cases hs with
  | @skip object rest _ hv _ =>
    refine h.replace hext hv 0 (Multiset.zero_add rest).symm ?_ fun call hc => Or.inl hc
    intro other ho
    cases ho
  | @enter object rest _ hv _ =>
    refine h.replace hext hv {.entered object} (by simp) (fun other ho => by cases ho) ?_
    intro call hc
    rw [calls_tell, List.mem_append, List.mem_singleton] at hc
    refine hc.imp_right fun heq other ho => Or.inl (Or.inl ?_)
    rw [heq] at ho
    rw [List.mem_singleton.1 ho, visited_tell]
    simp
  | @read object relations rest _ hv _ =>
    refine h.replace hext hv {.reporting object [] relations} (by simp) ?_ fun call hc => Or.inl hc
    intro other ho
    cases ho
  | @fail object error rest _ hv _ =>
    refine h.replace hext hv 0 (Multiset.zero_add rest).symm ?_ fun call hc => Or.inl hc
    intro other ho
    cases ho
  | @report object relation reported left rest _ hv =>
    -- the visited object was processed before, and the visit answers for the related one
    obtain ⟨hp, -, -⟩ := hinv.agrees (.reporting object reported (relation :: left)) (by simp [hv])
    have hobject : object.id ∈ state.visited :=
      (hmarked.mem_visited_iff _).2 (Trace.mem_processedIds.2 ⟨object, hp, rfl⟩)
    refine h.replace hext hv {.reporting object (reported ++ [relation]) left} (by simp) ?_ ?_
    · intro other ho
      refine Or.inr ⟨_, Multiset.mem_singleton_self _, ?_⟩
      exact List.mem_map.2 ((List.mem_map.1 ho).imp fun r hr =>
        ⟨List.mem_append_left _ hr.1, hr.2⟩)
    · intro call hc
      rw [calls_tell, List.mem_append, List.mem_singleton] at hc
      refine hc.imp_right fun heq other ho => ?_
      rw [heq] at ho
      rcases Relation.mem_objects_call.1 ho with rfl | rfl
      · exact Or.inl (hext.covered (Or.inl hobject))
      · refine Or.inr ⟨_, Multiset.mem_singleton_self _, ?_⟩
        exact List.mem_map.2 ⟨relation, by simp, rfl⟩
  | @spread object relations rest _ hv =>
    refine h.replace hext hv (Visit.following relations) rfl ?_ fun call hc => Or.inl hc
    intro other ho
    obtain ⟨relation, hr, rfl⟩ := List.mem_map.1 ho
    refine Or.inl (Or.inr ?_)
    exact Multiset.mem_add.2 (Or.inl (Visit.mem_following.2 ⟨relation, hr, rfl⟩))

theorem Run.mentioned (h : Run store grouping start state) : state.Mentioned := by
  induction h with
  | refl => simp [Mentioned, initial]
  | tail hrun hs ih => exact ih.step (Run.invariant hrun hs.failure_eq_none) (Run.marked hrun) hs

/-- When no visit is left, whatever was mentioned is marked, and so it has been processed. -/
theorem CompleteRun.closed (h : CompleteRun store grouping start state)
    (hf : state.failure = none) : state.trace.Closed := by
  intro call hc object ho
  have hv : state.visits = 0 := h.visits_eq_zero hf
  have hcovered : state.Covered object := by
    refine (h.run.mentioned call hc object ho).resolve_right ?_
    rw [hv]
    rintro ⟨visit, hm, -⟩
    exact Multiset.notMem_zero visit hm
  have hmem : object.id ∈ state.visited := by
    refine hcovered.resolve_right ?_
    rw [hv]
    exact Multiset.notMem_zero _
  exact (h.run.marked.mem_visited_iff _).1 hmem

/-- **A walk ends, visits each identifier once, and leaves nothing out that it mentions.** The first part
is about the walk, one visit after the other, with a receiver that may refuse any calls; the second part
about all runs in which the visits take their steps side by side. -/
theorem walk_processes_once (store : Store) (start : Object) :
    (∀ (cancelled : Bool) (refuse : Call → Option GraphError),
      let trace := (store.walk start cancelled).upTo refuse
      trace.ProcessesOnce store ∧ (trace.failure = none → trace.Closed)) ∧
    ∀ (grouping : Bool) (state : Exploration), Run store grouping start state →
      Acc (fun next state => Step store grouping state next) state ∧
      state.trace.ProcessesOnce store ∧
      (CompleteRun store grouping start state → state.failure = none → state.trace.Closed) := by
  refine ⟨fun cancelled refuse => ?_, fun grouping state h => ?_⟩
  · have hwalk : (store.walk start cancelled).ProcessesOnce store ∧
        ((store.walk start cancelled).failure = none → (store.walk start cancelled).Closed) := by
      cases cancelled with
      | true => exact ⟨⟨List.nodup_nil, Nat.zero_le _⟩, fun hf => by cases hf⟩
      | false =>
        -- nothing is marked at first, so that everything that is settled has been processed
        have h := store.explored_walkFrom ∅ start
        refine ⟨⟨h.once, h.atMost⟩, fun hf call hc object ho => ?_⟩
        exact (h.closed hf call hc object ho).resolve_left Std.ExtTreeSet.not_mem_empty
    exact ⟨hwalk.1.upTo refuse, Trace.closed_upTo hwalk.2 refuse⟩
  · exact ⟨h.acc, h.marked.processesOnce, fun hcomplete hf => hcomplete.closed hf⟩

/-- Three config maps of which one owns itself, two own each other, and the third has the identifier of
the second one: it is mentioned, passed over, and counts as processed. -/
theorem walk_processes_once_of_knot :
    let trace := (Sample.knot.walk Sample.first false).upTo fun _ => none
    (trace.processedIds = ["a", "b"] ∧ .edge Sample.third Sample.first ∈ trace.calls ∧
      trace.ProcessesOnce Sample.knot ∧ trace.Closed) ∧
    ∃ state, CompleteRun Sample.knot true Sample.first state ∧ state.failure = none ∧
      state.trace.ProcessesOnce Sample.knot ∧ state.trace.Closed := by
  intro trace
  obtain ⟨hwalk, hruns⟩ := walk_processes_once Sample.knot Sample.first
  have hfirst : Sample.knot.relations Sample.first =
      .ok [.incoming Sample.first, .incoming Sample.second, .incoming Sample.third] := rfl
  have hsecond : Sample.knot.relations Sample.second = .ok [.incoming Sample.first] := rfl
  have hmem : ∀ object ∈ [Sample.first, Sample.second, Sample.third],
      object ∈ Sample.knot.objects := fun object ho => ho
  have htrace : Sample.knot.walk Sample.first false =
      ⟨[.process Sample.first, .edge Sample.first Sample.first,
        .edge Sample.second Sample.first, .edge Sample.third Sample.first,
        .process Sample.second, .edge Sample.first Sample.second], none⟩ := by
    show Sample.knot.walkFrom ∅ Sample.first = _
    rw [Store.walkFrom_of_ok (by decide) hfirst]
    show (Sample.knot.explore _ [⟨Sample.first, hmem _ (by simp)⟩,
      ⟨Sample.second, hmem _ (by simp)⟩, ⟨Sample.third, hmem _ (by simp)⟩]).after _ = _
    rw [Store.explore_of_visited (by decide), Store.explore_of_ok (by decide) hsecond]
    show ((Sample.knot.explore _ [⟨Sample.first, hmem _ (by simp)⟩,
      ⟨Sample.third, hmem _ (by simp)⟩]).after _).after _ = _
    rw [Store.explore_of_visited (by decide), Store.explore_of_visited (by decide),
      Store.explore]
    rfl
  obtain ⟨honce, hclosed⟩ := hwalk false fun _ => none
  have hbegin : Run Sample.knot true Sample.first (initial Sample.first) := .refl
  obtain ⟨final, -, hfinal⟩ := hbegin.exists_complete
  have hall : Sample.knot.Visitable Sample.first := by
    refine Store.visitable_of_objects ?_
    decide
  have hnone : final.failure = none := by
    by_contra hne
    exact hfinal.run.not_visitable hne hall
  obtain ⟨-, honce', hclosed'⟩ := hruns true final hfinal.run
  refine ⟨⟨?_, ?_, honce, hclosed ?_⟩, final, hfinal, hnone, honce', hclosed' hfinal hnone⟩ <;>
    simp only [trace, htrace]
  · decide
  · simp [Trace.upTo, Trace.takeUntil]
  · rfl

end Exploration

end ClusterGraph
