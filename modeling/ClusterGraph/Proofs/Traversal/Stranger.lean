import ClusterGraph.Proofs.Relation.Stranger
import ClusterGraph.Proofs.Traversal.Once

/-!
# Objects that a walk does not notice

What a walk does depends on the store only through the relations of the objects that it processes, and so
does every run of visits side by side:

* **`walk_upTo_congr`**, **`Run.congr`** — two stores that give the processed objects the same relations
  give the same walk and the same runs.
* **`stranger_changes_nothing`** — so a further object that is tied to none of the processed ones, and can
  be read from all of them, is not noticed.
* **`not_forall_stranger`** — it does have to be readable: a broken service ends the walk from any pod of
  its namespace.

A receiver may refuse calls. The walk ends there, and only what has been processed by then counts.
-/

namespace ClusterGraph

namespace Trace

variable {refuse : Call → Option GraphError} {calls : List Call}

/-! ## Refused calls

How a receiver that refuses calls meets a walk in two parts: it ends in the first part, whatever would
have followed, or it is as if the second part were walked alone. -/

theorem takeUntil_append_of_error {error : GraphError} (h : (takeUntil refuse calls).2 = some error)
    (more : List Call) : takeUntil refuse (calls ++ more) = takeUntil refuse calls := by
  induction calls with
  | nil => cases h
  | cons call rest ih =>
    unfold takeUntil at h
    rw [List.cons_append, takeUntil, takeUntil]
    cases hr : refuse call with
    | some error => rfl
    | none =>
      rw [hr] at h
      rw [ih h]

theorem takeUntil_append_of_none (h : (takeUntil refuse calls).2 = none) (more : List Call) :
    takeUntil refuse (calls ++ more) =
      (calls ++ (takeUntil refuse more).1, (takeUntil refuse more).2) := by
  induction calls with
  | nil => rfl
  | cons call rest ih =>
    unfold takeUntil at h
    rw [List.cons_append, takeUntil]
    cases hr : refuse call with
    | some error =>
      rw [hr] at h
      cases h
    | none =>
      rw [hr] at h
      rw [ih h]
      rfl

/-- Where one of the first calls is refused, the walk ends among them, whatever would have followed. -/
theorem upTo_after_of_error {error : GraphError} (h : (takeUntil refuse calls).2 = some error)
    (rest : Trace) :
    (rest.after calls).upTo refuse = ⟨(takeUntil refuse calls).1, some (.graph error)⟩ := by
  have hcut : takeUntil refuse (calls ++ rest.calls) = ((takeUntil refuse calls).1, some error) := by
    rw [takeUntil_append_of_error h, ← h]
  rw [upTo, after, hcut]

/-- Where none is, only the rest of the walk can be cut off. -/
theorem upTo_after_of_none (h : (takeUntil refuse calls).2 = none) (rest : Trace) :
    (rest.after calls).upTo refuse = (rest.upTo refuse).after calls := by
  unfold upTo after
  rw [takeUntil_append_of_none h]
  cases takeUntil refuse rest.calls with
  | mk more error => cases error <;> rfl

theorem mem_processed_after {rest : Trace} {object : Object} (h : object ∈ rest.processed) :
    object ∈ (rest.after calls).processed :=
  mem_processed.2 (List.mem_append_right _ (mem_processed.1 h))

/-- The rest of the walk counts unless it is cut off before, and then what it processes does, too. -/
theorem upTo_after_congr {rest other : Trace} {P : Object → Prop}
    (h : ∀ object ∈ ((rest.after calls).upTo refuse).processed, P object)
    (hrest : (∀ object ∈ (rest.upTo refuse).processed, P object) →
      other.upTo refuse = rest.upTo refuse) :
    (other.after calls).upTo refuse = (rest.after calls).upTo refuse := by
  cases hcut : (takeUntil refuse calls).2 with
  | some error => rw [upTo_after_of_error hcut, upTo_after_of_error hcut]
  | none =>
    rw [upTo_after_of_none hcut] at h ⊢
    rw [upTo_after_of_none hcut, hrest fun object ho => h object (mem_processed_after ho)]

/-- The first call is made, even if it is refused. -/
theorem mem_processed_upTo {trace : Trace} {object : Object}
    (h : trace.calls = .process object :: calls) :
    object ∈ (trace.upTo refuse).processed := by
  have hcut : .process object ∈ (takeUntil refuse trace.calls).1 := by
    rw [h, takeUntil]
    cases refuse (.process object) <;> exact List.mem_cons_self
  rw [mem_processed]
  unfold upTo
  cases hc : takeUntil refuse trace.calls with
  | mk before error =>
    cases error with
    | none =>
      rw [h]
      exact List.mem_cons_self
    | some error =>
      rw [hc] at hcut
      exact hcut

end Trace

namespace Store

variable {store other : Store} {refuse : Call → Option GraphError}

/-- **A walk over pending objects only depends on the relations of those that it processes.** -/
theorem explore_upTo_congr (visited : Keys)
    (pending : List { object : Object // object ∈ store.objects }) :
    (∀ object ∈ ((store.explore visited pending).upTo refuse).processed,
      other.relations object = store.relations object) →
    ∀ pending' : List { object : Object // object ∈ other.objects },
      pending'.map (·.val) = pending.map (·.val) →
      (other.explore visited pending').upTo refuse = (store.explore visited pending).upTo refuse := by
  -- along the recursion of one walk; the other one has the same objects pending, as far as they go
  induction visited, pending using Store.explore.induct store with
  | case1 visited =>
    intro _ pending' hp
    obtain rfl : pending' = [] := List.map_eq_nil_iff.1 hp
    rw [explore, explore]
  | case2 visited object hm rest hc ih =>
    intro h pending' hp
    obtain ⟨⟨object, hm'⟩, rest', rfl, rfl, hrest⟩ := List.map_eq_cons_iff.1 hp
    have hseen : object.id ∈ visited := Std.ExtTreeSet.mem_iff_contains.2 hc
    rw [explore_of_visited hseen] at h ⊢
    rw [explore_of_visited hseen]
    exact ih h rest' hrest
  | case3 visited object hm rest hc error hr =>
    intro h pending' hp
    obtain ⟨⟨object, hm'⟩, rest', rfl, rfl, hrest⟩ := List.map_eq_cons_iff.1 hp
    have hnew : object.id ∉ visited := fun h => hc (Std.ExtTreeSet.mem_iff_contains.1 h)
    rw [explore_of_error hnew hr] at h ⊢
    have hr' : other.relations object = .error error := by
      rw [h object (Trace.mem_processed_upTo rfl), hr]
    rw [explore_of_error hnew hr']
  | case4 visited object hm rest hc relations hr ih =>
    intro h pending' hp
    obtain ⟨⟨object, hm'⟩, rest', rfl, rfl, hrest⟩ := List.map_eq_cons_iff.1 hp
    have hnew : object.id ∉ visited := fun h => hc (Std.ExtTreeSet.mem_iff_contains.1 h)
    rw [explore_of_ok hnew hr] at h ⊢
    have hr' : other.relations object = .ok relations := by
      rw [h object (Trace.mem_processed_upTo rfl), hr]
    have hpending : (other.related object relations hr' ++ rest').map (·.val) =
        (store.related object relations hr ++ rest).map (·.val) := by
      rw [map_val_related, map_val_related, hrest]
    rw [explore_of_ok hnew hr']
    exact Trace.upTo_after_congr h fun hlater => ih hlater _ hpending

theorem walkFrom_upTo_congr {visited : Keys} {start : Object}
    (h : ∀ object ∈ ((store.walkFrom visited start).upTo refuse).processed,
      other.relations object = store.relations object) :
    (other.walkFrom visited start).upTo refuse = (store.walkFrom visited start).upTo refuse := by
  by_cases hm : start.id ∈ visited
  · have hc := Std.ExtTreeSet.mem_iff_contains.1 hm
    rw [walkFrom, walkFrom, if_pos hc, if_pos hc]
  cases hr : store.relations start with
  | error error =>
    rw [walkFrom_of_error hm hr] at h ⊢
    have hr' : other.relations start = .error error := by
      rw [h start (Trace.mem_processed_upTo rfl), hr]
    rw [walkFrom_of_error hm hr']
  | ok relations =>
    rw [walkFrom_of_ok hm hr] at h ⊢
    have hr' : other.relations start = .ok relations := by
      rw [h start (Trace.mem_processed_upTo rfl), hr]
    have hpending : (other.related start relations hr').map (·.val) =
        (store.related start relations hr).map (·.val) := by
      have hall := (map_val_related hr' []).trans (map_val_related hr []).symm
      rwa [List.append_nil, List.append_nil] at hall
    rw [walkFrom_of_ok hm hr']
    exact Trace.upTo_after_congr h fun hlater => explore_upTo_congr _ _ hlater _ hpending

/-- **A walk only depends on the relations of the objects that it processes.** -/
theorem walk_upTo_congr {start : Object} {cancelled : Bool}
    (h : ∀ object ∈ ((store.walk start cancelled).upTo refuse).processed,
      other.relations object = store.relations object) :
    (other.walk start cancelled).upTo refuse = (store.walk start cancelled).upTo refuse := by
  cases cancelled with
  | true => rfl
  | false =>
    show (other.walkFrom ∅ start).upTo refuse = (store.walkFrom ∅ start).upTo refuse
    exact walkFrom_upTo_congr h

end Store

/-! ## Visits side by side

A step asks the store one question, which is for the relations of an object that was processed before. So
two stores that agree on the processed objects allow the same steps, and by induction the same runs. -/

namespace Exploration

variable {store other : Store} {grouping : Bool} {start : Object} {state next : Exploration}

/-- A step only depends on the relations of objects whose visits have begun. -/
theorem Step.congr (hs : Step store grouping state next)
    (h : ∀ object, .entered object ∈ state.visits →
      other.relations object = store.relations object) : Step other grouping state next := by
  cases hs with
  | skip hf hv hm => exact .skip hf hv hm
  | enter hf hv hm => exact .enter hf hv hm
  | @read object relations rest hf hv hr =>
    have hr' : other.relations object = .ok relations := by rw [h object (by simp [hv]), hr]
    exact .read hf hv hr'
  | @fail object error rest hf hv hr =>
    have hr' : other.relations object = .error error := by rw [h object (by simp [hv]), hr]
    exact .fail hf hv hr'
  | report hf hv => exact .report hf hv
  | spread hf hv => exact .spread hf hv

/-- Objects whose visits have begun are processed. -/
theorem Run.mem_processed_of_entered (h : Run store grouping start state)
    (hf : state.failure = none) {object : Object} (hm : .entered object ∈ state.visits) :
    object ∈ state.trace.processed :=
  Trace.mem_processed.2 ((h.invariant hf).agrees _ hm)

/-- **Runs only depend on the relations of the objects that they process.** -/
theorem run_congr (h : ∀ state, Run store grouping start state →
      ∀ object ∈ state.trace.processed, other.relations object = store.relations object) :
    Run other grouping start state ↔ Run store grouping start state := by
  -- a step is the same in both stores as long as the run up to it is one of `store`
  have hstep : ∀ before, Run store grouping start before → before.failure = none →
      ∀ object, .entered object ∈ before.visits →
        other.relations object = store.relations object :=
    fun before hrun hf object hm => h before hrun object (hrun.mem_processed_of_entered hf hm)
  constructor
  · -- from the end of the run: up to the last step it is one of `store`
    intro hrun
    induction hrun with
    | refl => exact .refl
    | @tail before after _ hs ih =>
      have hsame := hstep before ih hs.failure_eq_none
      exact ih.tail (hs.congr fun object hm => (hsame object hm).symm)
  · intro hrun
    induction hrun with
    | refl => exact .refl
    | @tail before after hrun hs ih =>
      exact ih.tail (hs.congr (hstep before hrun hs.failure_eq_none))

theorem completeRun_congr (h : ∀ state, Run store grouping start state →
      ∀ object ∈ state.trace.processed, other.relations object = store.relations object) :
    CompleteRun other grouping start state ↔ CompleteRun store grouping start state := by
  -- whether a run has come to its end does not depend on the store
  have hstuck : (∀ next, ¬ Step other grouping state next) ↔
      ∀ next, ¬ Step store grouping state next := by
    rw [stuck_iff, stuck_iff]
  exact ⟨fun hc => ⟨(run_congr h).1 hc.run, hstuck.1 hc.stuck⟩,
    fun hc => ⟨(run_congr h).2 hc.run, hstuck.2 hc.stuck⟩⟩

/-- Only pending objects are processed. -/
theorem Step.mem_processed (hs : Step store grouping state next) {object : Object}
    (hm : object ∈ next.trace.processed) :
    object ∈ state.trace.processed ∨ .pending object ∈ state.visits := by
  -- entering is the only step that has an object processed
  cases hs with
  | skip => exact Or.inl hm
  | @enter entered rest hf hv =>
    rw [Trace.mem_processed, trace, calls_tell, List.mem_append, List.mem_singleton] at hm
    rcases hm with hm | heq
    · exact Or.inl (Trace.mem_processed.2 hm)
    · obtain rfl : object = entered := Call.process.inj heq
      exact Or.inr (by simp [hv])
  | read => exact Or.inl hm
  | fail => exact Or.inl hm
  | @report visited relation =>
    rw [Trace.mem_processed, trace, calls_tell, List.mem_append, List.mem_singleton] at hm
    exact Or.inl (Trace.mem_processed.2 (hm.resolve_right Call.noConfusion))
  | spread => exact Or.inl hm

theorem Run.reaches_of_processed (h : Run store grouping start state) {object : Object}
    (hm : object ∈ state.trace.processed) : store.Reaches start object := by
  induction h with
  | refl => exact absurd hm List.not_mem_nil
  | tail hrun hs ih =>
    rcases hs.mem_processed hm with hm | hp
    · exact ih hm
    · exact (Run.invariant hrun hs.failure_eq_none).reached _ hp

/-- **A further object that is tied to none of the processed ones, and can be read from all of them, is not
noticed**: not by the walk, with a receiver that may refuse any calls, and not by visits that take their
steps side by side. -/
theorem stranger_changes_nothing (store : Store) (start stranger : Object) :
    (∀ (cancelled : Bool) (refuse : Call → Option GraphError),
      (∀ object ∈ ((store.walk start cancelled).upTo refuse).processed,
        object.isTiedTo stranger = false ∧ object.CanRead stranger) →
      ((store.add stranger).walk start cancelled).upTo refuse =
        (store.walk start cancelled).upTo refuse) ∧
    ∀ grouping : Bool,
      (∀ state, Run store grouping start state → ∀ object ∈ state.trace.processed,
        object.isTiedTo stranger = false ∧ object.CanRead stranger) →
      ∀ state,
        (Run (store.add stranger) grouping start state ↔ Run store grouping start state) ∧
        (CompleteRun (store.add stranger) grouping start state ↔
          CompleteRun store grouping start state) := by
  have hsame : ∀ object, object.isTiedTo stranger = false ∧ object.CanRead stranger →
      (store.add stranger).relations object = store.relations object :=
    fun object h => Store.relations_add h.1 h.2
  refine ⟨fun cancelled refuse h => ?_, fun grouping h state => ?_⟩
  · exact Store.walk_upTo_congr fun object ho => hsame object (h object ho)
  · have hruns : ∀ state, Run store grouping start state → ∀ object ∈ state.trace.processed,
        (store.add stranger).relations object = store.relations object :=
      fun state hrun object ho => hsame object (h state hrun object ho)
    exact ⟨run_congr hruns, completeRun_congr hruns⟩

/-- A service that picks other pods is read in the visit of the pod, but not noticed. -/
theorem stranger_changes_nothing_of_pair :
    (∀ object ∈ [Sample.pod "p1", Sample.service],
      object.isTiedTo Sample.database = false ∧ object.CanRead Sample.database) ∧
    ((Sample.pair.add Sample.database).walk (Sample.pod "p1") false).upTo (fun _ => none) =
      ⟨[.process (Sample.pod "p1"), .edge Sample.service (Sample.pod "p1"),
        .process Sample.service, .edge Sample.service (Sample.pod "p1")], none⟩ ∧
    ∃ final, CompleteRun (Sample.pair.add Sample.database) true (Sample.pod "p1") final ∧
      CompleteRun Sample.pair true (Sample.pod "p1") final := by
  have hall : ∀ object ∈ [Sample.pod "p1", Sample.service],
      object.isTiedTo Sample.database = false ∧ object.CanRead Sample.database := by
    decide +kernel
  have hwalk : Sample.pair.walk (Sample.pod "p1") false =
      ⟨[.process (Sample.pod "p1"), .edge Sample.service (Sample.pod "p1"),
        .process Sample.service, .edge Sample.service (Sample.pod "p1")], none⟩ := by
    have hpod : Sample.pair.relations (Sample.pod "p1") = .ok [.incoming Sample.service] := rfl
    have hservice : Sample.pair.relations Sample.service = .ok [.outgoing (Sample.pod "p1")] := rfl
    have hmpod : Sample.pod "p1" ∈ Sample.pair.objects := List.mem_cons_self
    have hmservice : Sample.service ∈ Sample.pair.objects := by simp [Sample.pair]
    show Sample.pair.walkFrom ∅ (Sample.pod "p1") = _
    rw [Store.walkFrom_of_ok (by decide +kernel) hpod]
    show (Sample.pair.explore _ [⟨Sample.service, hmservice⟩]).after _ = _
    rw [Store.explore_of_ok (by decide +kernel) hservice]
    show ((Sample.pair.explore _ [⟨Sample.pod "p1", hmpod⟩]).after _).after _ = _
    rw [Store.explore_of_visited (by decide +kernel), Store.explore]
    rfl
  obtain ⟨hwalks, hruns⟩ :=
    stranger_changes_nothing Sample.pair (Sample.pod "p1") Sample.database
  refine ⟨hall, ?_, ?_⟩
  · have hsame := hwalks false (fun _ => none)
    rw [hwalk] at hsame
    exact hsame hall
  · have hbegin : Run Sample.pair true (Sample.pod "p1") (initial (Sample.pod "p1")) := .refl
    obtain ⟨final, -, hfinal⟩ := hbegin.exists_complete
    have hsame := hruns true fun state hrun object ho => by
      -- the pod and the service are all there is to be processed
      have hmem : object ∈ Sample.pod "p1" :: Sample.pair.objects :=
        (hrun.reaches_of_processed ho).mem
      have hknown : object ∈ [Sample.pod "p1", Sample.service] := by
        simpa [Sample.pair] using hmem
      exact hall object hknown
    exact ⟨final, (hsame final).2.2 hfinal, hfinal⟩

/-- **A further object that is tied to none of the processed ones can be noticed**, with an identifier of
its own and all: a service that cannot be read ends the walk from a pod that it does not pick. -/
theorem not_forall_stranger :
    ¬ ∀ (store : Store) (start stranger : Object), store.refused = [] → start ∈ store.objects →
      stranger.id ∉ store.objects.map Object.id →
      (∀ object ∈ (store.walk start false).processed, object.isTiedTo stranger = false) →
      (store.add stranger).walk start false = store.walk start false := by
  intro hall
  have hnew : (Sample.pod "p1").id ∉ (∅ : Keys) := Std.ExtTreeSet.not_mem_empty
  have hwalk : Sample.lone.walk (Sample.pod "p1") false = ⟨[.process (Sample.pod "p1")], none⟩ := by
    have hnone : Sample.lone.relations (Sample.pod "p1") = .ok [] := rfl
    show Sample.lone.walkFrom ∅ (Sample.pod "p1") = _
    rw [Store.walkFrom_of_ok hnew hnone]
    show (Sample.lone.explore _ []).after _ = _
    rw [Store.explore]
    rfl
  -- the pod reads every service in its namespace, and this one cannot be read
  have hends : ((Sample.lone.add Sample.broken).walk (Sample.pod "p1") false).failure ≠ none := by
    show ((Sample.lone.add Sample.broken).walkFrom ∅ (Sample.pod "p1")).failure ≠ none
    cases hr : (Sample.lone.add Sample.broken).relations (Sample.pod "p1") with
    | ok relations => exact absurd (Store.canRead_of_relations_add hr) (by decide +kernel)
    | error error =>
      rw [Store.walkFrom_of_error hnew hr]
      exact Option.some_ne_none error
  have huntied : ∀ object ∈ (Sample.lone.walk (Sample.pod "p1") false).processed,
      object.isTiedTo Sample.broken = false := by
    rw [hwalk]
    show ∀ object ∈ [Sample.pod "p1"], object.isTiedTo Sample.broken = false
    decide +kernel
  have hsame := hall Sample.lone (Sample.pod "p1") Sample.broken rfl List.mem_cons_self
    (by decide +kernel) huntied
  rw [hsame, hwalk] at hends
  exact hends rfl

end Exploration

end ClusterGraph
