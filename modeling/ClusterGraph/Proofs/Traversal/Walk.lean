import ClusterGraph.Proofs.Traversal.Runs

/-!
# The walk is a run

`Store.explore` works off one visit after the other, each with everything below it before the next one.
That is one of the schedules by which visits can run side by side:

* **`exists_complete_walk`** — some complete run has the outcome of the walk, be it a recording or an
  error.

What is known of all complete runs is therefore known of the walk. The proof follows the recursion of the
walk; `EndsWith` says what is left of the run at each point of it.
-/

namespace ClusterGraph

namespace Recording

/-! ## Recording what is left of a walk

The recursion has to speak of a walk that is partly over, so that recording starts from what is recorded
by then. A call is taken off the front at a time, and a refused one is the end. -/

/-- The recording of a walk that adds to another recording. -/
def resume (grouping : Bool) (recording : Recording) (trace : Trace) : Except VisitError Recording :=
  match receiveAll recording grouping trace.calls with
  | .error error => .error (.graph error)
  | .ok next =>
    match trace.failure with
    | some error => .error error
    | none => .ok next

theorem ofTrace_eq_resume (grouping : Bool) (trace : Trace) :
    ofTrace grouping trace = resume grouping {} trace := rfl

theorem resume_done (grouping : Bool) (recording : Recording) :
    resume grouping recording .done = .ok recording := rfl

/-- A refused call ends the walk before anything that follows. -/
theorem resume_cons_of_error {grouping : Bool} {recording : Recording} {call : Call}
    {error : GraphError} (h : recording.receive grouping call = .error error) (calls : List Call)
    (failure : Option VisitError) :
    resume grouping recording ⟨call :: calls, failure⟩ = .error (.graph error) := by
  unfold resume receiveAll
  rw [List.foldlM_cons, h]
  rfl

theorem resume_cons_of_ok {grouping : Bool} {recording next : Recording} {call : Call}
    (h : recording.receive grouping call = .ok next) (calls : List Call)
    (failure : Option VisitError) :
    resume grouping recording ⟨call :: calls, failure⟩ = resume grouping next ⟨calls, failure⟩ := by
  unfold resume receiveAll
  rw [List.foldlM_cons, h]
  rfl

end Recording

namespace Store

variable {store : Store} {visited : Keys} {object : Object}

/-! ## Pending objects as visits

The list of what is pending, in no order. What a visit adds goes before the others in the walk, which
makes no difference here. -/

def visitsOf (pending : List { object : Object // object ∈ store.objects }) : Multiset Visit :=
  ((pending.map fun object => .pending object.val : List Visit) : Multiset Visit)

theorem visitsOf_cons (object : { object : Object // object ∈ store.objects })
    (rest : List { object : Object // object ∈ store.objects }) :
    visitsOf (object :: rest) = .pending object.val ::ₘ visitsOf rest := rfl

/-- The related objects are pending before the others. -/
theorem visitsOf_related {relations : List Relation} (h : store.relations object = .ok relations)
    (rest : List { object : Object // object ∈ store.objects }) :
    visitsOf (store.related object relations h ++ rest) =
      Visit.following relations + visitsOf rest := by
  have hmap : (store.related object relations h).map (fun object => Visit.pending object.val) =
      relations.map fun relation => Visit.pending relation.object := by
    have hval : relations.attach.map (fun relation => Visit.pending relation.val.object) =
        relations.map fun relation => Visit.pending relation.object :=
      List.attach_map_val (f := fun relation : Relation => Visit.pending relation.object)
    rw [related, List.map_map, ← hval]
    rfl
  rw [visitsOf, List.map_append, hmap, ← Multiset.coe_add]
  rfl

/-! ## The steps of the walk

One equation for each case of the recursion: a marked object, one whose relations cannot be read, and one
that is visited. The other modules rewrite with these and leave the recursion alone. -/

variable {hm : object ∈ store.objects} {rest : List { object : Object // object ∈ store.objects }}

theorem explore_of_visited (h : object.id ∈ visited) :
    store.explore visited (⟨object, hm⟩ :: rest) = store.explore visited rest := by
  rw [explore, dif_pos (Std.ExtTreeSet.mem_iff_contains.1 h)]

theorem explore_of_error (h : object.id ∉ visited) {error : VisitError}
    (hr : store.relations object = .error error) :
    store.explore visited (⟨object, hm⟩ :: rest) = ⟨[.process object], some error⟩ := by
  rw [explore, dif_neg fun hc => h (Std.ExtTreeSet.mem_iff_contains.2 hc)]
  split <;> simp_all

theorem explore_of_ok (h : object.id ∉ visited) {relations : List Relation}
    (hr : store.relations object = .ok relations) :
    store.explore visited (⟨object, hm⟩ :: rest) =
      (store.explore (visited.insert object.id) (store.related object relations hr ++ rest)).after
        (visitCalls object relations) := by
  rw [explore, dif_neg fun hc => h (Std.ExtTreeSet.mem_iff_contains.2 hc)]
  split
  · simp_all
  · rename_i relations' hr'
    obtain rfl : relations = relations' := Except.ok.inj (hr.symm.trans hr')
    rfl

theorem walkFrom_of_error (h : object.id ∉ visited) {error : VisitError}
    (hr : store.relations object = .error error) :
    store.walkFrom visited object = ⟨[.process object], some error⟩ := by
  rw [walkFrom, if_neg fun hc => h (Std.ExtTreeSet.mem_iff_contains.2 hc)]
  split <;> simp_all

theorem walkFrom_of_ok (h : object.id ∉ visited) {relations : List Relation}
    (hr : store.relations object = .ok relations) :
    store.walkFrom visited object =
      (store.explore (visited.insert object.id) (store.related object relations hr)).after
        (visitCalls object relations) := by
  rw [walkFrom, if_neg fun hc => h (Std.ExtTreeSet.mem_iff_contains.2 hc)]
  split
  · simp_all
  · rename_i relations' hr'
    obtain rfl : relations = relations' := Except.ok.inj (hr.symm.trans hr')
    rfl

end Store

namespace Exploration

/-- What has been recorded, or what ended the exploration early. -/
def outcome (state : Exploration) : Except VisitError Recording :=
  match state.failure with
  | some error => .error error
  | none => .ok state.recording

/-- From here some schedule leads to an end with a given outcome. -/
def EndsWith (store : Store) (grouping : Bool) (state : Exploration)
    (result : Except VisitError Recording) : Prop :=
  ∃ final, Relation.ReflTransGen (Step store grouping) state final ∧
    (∀ next, ¬ Step store grouping final next) ∧ final.outcome = result

variable {store : Store} {grouping : Bool} {start : Object} {state next : Exploration}

theorem EndsWith.head {result : Except VisitError Recording} (hs : Step store grouping state next)
    (h : EndsWith store grouping next result) : EndsWith store grouping state result := by
  obtain ⟨final, hrun, hend⟩ := h
  exact ⟨final, hrun.head hs, hend⟩

theorem endsWith_of_failure {error : VisitError} (hf : state.failure = some error) :
    EndsWith store grouping state (.error error) := by
  refine ⟨state, .refl, stuck_iff.2 (Or.inl ?_), ?_⟩
  · rw [hf]
    exact Option.some_ne_none error
  · rw [outcome, hf]

theorem endsWith_of_visits (hf : state.failure = none) (hv : state.visits = 0) :
    EndsWith store grouping state (.ok state.recording) := by
  refine ⟨state, .refl, stuck_iff.2 (Or.inr hv), ?_⟩
  rw [outcome, hf]

/-- A call is recorded and the walk goes on, or it is refused and the walk is over. -/
theorem endsWith_tell (hf : state.failure = none) {call : Call} {calls : List Call}
    {failure : Option VisitError}
    (h : ∀ next, next.failure = none → next.visited = state.visited → next.visits = state.visits →
      EndsWith store grouping next (next.recording.resume grouping ⟨calls, failure⟩)) :
    EndsWith store grouping (state.tell grouping call)
      (state.recording.resume grouping ⟨call :: calls, failure⟩) := by
  cases hr : state.recording.receive grouping call with
  | error error =>
    rw [Recording.resume_cons_of_error hr]
    exact endsWith_of_failure (by simp [tell, hr])
  | ok recording =>
    rw [Recording.resume_cons_of_ok hr]
    have hnext : state.tell grouping call =
        { state with recording, calls := state.calls ++ [call] } := by simp [tell, hr]
    rw [hnext]
    exact h { state with recording, calls := state.calls ++ [call] } hf rfl rfl

/-! ## One visit after the other

Each lemma takes what follows as a hypothesis about every state in which its part of the walk can end:
nothing has failed, the marks are known, and the related objects are pending. What has been recorded by
then is read off the state, so that refused calls need no case of their own. -/

/-- What is left to report is reported, and then the related objects are visited. -/
theorem endsWith_reporting {object : Object} {left : List Relation} {trace : Trace} :
    ∀ {state : Exploration} {reported : List Relation} {rest : Multiset Visit},
      state.failure = none →
      state.visits = .reporting object reported left ::ₘ rest →
      (∀ next, next.failure = none → next.visited = state.visited →
        next.visits = Visit.following (reported ++ left) + rest →
        EndsWith store grouping next (next.recording.resume grouping trace)) →
      EndsWith store grouping state
        (state.recording.resume grouping (trace.after (left.map (·.call object)))) := by
  -- induction on the relations that are left; at the end the visit gives way to those that follow
  induction left with
  | nil =>
    intro state reported rest hf hv h
    rw [List.append_nil] at h
    exact .head (.spread hf hv) (h { state with visits := _ } hf rfl rfl)
  | cons relation left ih =>
    intro state reported rest hf hv h
    refine .head (.report hf hv) ?_
    refine endsWith_tell ?_ fun next hf' hvisited hvisits => ?_
    · exact hf
    refine ih hf' hvisits fun later hf'' hvisited' hvisits' => ?_
    rw [List.append_assoc] at hvisits'
    exact h later hf'' (hvisited'.trans hvisited) hvisits'

theorem endsWith_visit {object : Object} {relations : List Relation} {rest : Multiset Visit}
    {trace : Trace} (hf : state.failure = none) (hv : state.visits = .pending object ::ₘ rest)
    (hm : object.id ∉ state.visited) (hr : store.relations object = .ok relations)
    (h : ∀ next, next.failure = none → next.visited = state.visited.insert object.id →
      next.visits = Visit.following relations + rest →
      EndsWith store grouping next (next.recording.resume grouping trace)) :
    EndsWith store grouping state
      (state.recording.resume grouping (trace.after (Store.visitCalls object relations))) := by
  refine .head (.enter hf hv hm) ?_
  refine endsWith_tell ?_ fun entered hf₁ hvisited₁ hvisits₁ => ?_
  · exact hf
  refine .head (.read hf₁ hvisits₁ hr) ?_
  refine endsWith_reporting hf₁ rfl fun next hf₂ hvisited₂ hvisits₂ => ?_
  exact h next hf₂ (hvisited₂.trans hvisited₁) hvisits₂

theorem endsWith_unreadable {object : Object} {error : VisitError} {rest : Multiset Visit}
    (hf : state.failure = none) (hv : state.visits = .pending object ::ₘ rest)
    (hm : object.id ∉ state.visited) (hr : store.relations object = .error error) :
    EndsWith store grouping state
      (state.recording.resume grouping ⟨[.process object], some error⟩) := by
  refine .head (.enter hf hv hm) ?_
  refine endsWith_tell ?_ fun entered hf₁ _ hvisits₁ => ?_
  · exact hf
  exact .head (.fail hf₁ hvisits₁ hr) (endsWith_of_failure rfl)

/-- The pending visits, worked off in their order. -/
theorem endsWith_explore (visited : Keys)
    (pending : List { object : Object // object ∈ store.objects }) :
    ∀ state : Exploration, state.failure = none → state.visited = visited →
      state.visits = Store.visitsOf pending →
      EndsWith store grouping state
        (state.recording.resume grouping (store.explore visited pending)) := by
  -- along the recursion, for every state with these marks and these visits
  induction visited, pending using Store.explore.induct store with
  | case1 visited =>
    intro state hf _ hv
    rw [Store.explore, Recording.resume_done]
    exact endsWith_of_visits hf hv
  | case2 visited object hm rest hc ih =>
    -- the object was visited before
    rintro state hf rfl hv
    have hseen : object.id ∈ state.visited := Std.ExtTreeSet.mem_iff_contains.2 hc
    rw [Store.visitsOf_cons] at hv
    rw [Store.explore_of_visited hseen]
    refine .head (.skip hf hv hseen) ?_
    exact ih { state with visits := _ } hf rfl rfl
  | case3 visited object hm rest hc error hr =>
    -- its relations cannot be read
    rintro state hf rfl hv
    have hnew : object.id ∉ state.visited := fun h => hc (Std.ExtTreeSet.mem_iff_contains.1 h)
    rw [Store.visitsOf_cons] at hv
    rw [Store.explore_of_error hnew hr]
    exact endsWith_unreadable hf hv hnew hr
  | case4 visited object hm rest hc relations hr ih =>
    -- its related objects go before everything that was pending
    rintro state hf rfl hv
    have hnew : object.id ∉ state.visited := fun h => hc (Std.ExtTreeSet.mem_iff_contains.1 h)
    rw [Store.visitsOf_cons] at hv
    rw [Store.explore_of_ok hnew hr]
    refine endsWith_visit hf hv hnew hr fun next hf' hvisited hvisits => ?_
    refine ih next hf' hvisited ?_
    rw [Store.visitsOf_related, hvisits]

/-- **The walk is one of the runs.** -/
theorem exists_complete_walk (store : Store) (grouping : Bool) (start : Object) :
    ∃ final, CompleteRun store grouping start final ∧
      final.outcome = Recording.ofTrace grouping (store.walkFrom ∅ start) := by
  have hends : EndsWith store grouping (initial start)
      (Recording.ofTrace grouping (store.walkFrom ∅ start)) := by
    rw [Recording.ofTrace_eq_resume]
    have hv : (initial start).visits = .pending start ::ₘ 0 := rfl
    have hnew : start.id ∉ (∅ : Keys) := Std.ExtTreeSet.not_mem_empty
    cases hr : store.relations start with
    | error error =>
      rw [Store.walkFrom_of_error hnew hr]
      exact endsWith_unreadable rfl hv hnew hr
    | ok relations =>
      rw [Store.walkFrom_of_ok hnew hr]
      refine endsWith_visit rfl hv hnew hr fun next hf hvisited hvisits => ?_
      refine endsWith_explore _ _ next hf hvisited ?_
      rw [hvisits, ← List.append_nil (store.related start relations hr), Store.visitsOf_related]
      rfl
  obtain ⟨final, hrun, hstuck, hout⟩ := hends
  exact ⟨final, ⟨hrun, hstuck⟩, hout⟩

end Exploration

end ClusterGraph
