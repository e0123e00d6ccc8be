import Mathlib.Algebra.BigOperators.Group.Multiset.Basic
import ClusterGraph.Proofs.Traversal.Schedule

/-!
# Whole runs

Which visit takes the next step is a matter of chance, and so is which of the visits of an object marks
it. The outcome is not:

* **`Run.acc`** — no run goes on for ever: a step marks another object or leaves less to do.
* **`Run.not_visitable`** — a run only fails if something reached cannot be visited.
* **`CompleteRun.mem_calls_iff`** — a complete run without failure has made the calls of all reached
  objects and no others.
* **`complete_runs_agree`** — so all complete runs fail, or none does; and those that do not fail make
  the same calls and show the same graph.
-/

namespace ClusterGraph

namespace Visit

/-- How much there is left to do for a visit, not counting what it gives rise to. -/
def weight (store : Store) : Visit → Nat
  | pending _ => 1
  | entered object =>
    match store.relations object with
    | .ok relations => 2 + 2 * relations.length
    | .error _ => 1
  | reporting _ reported left => 1 + reported.length + 2 * left.length

theorem sum_weight_following (store : Store) (relations : List Relation) :
    ((following relations).map (weight store)).sum = relations.length := by
  simp [following, weight, Function.comp_def]

end Visit

namespace Exploration

variable {store : Store} {grouping : Bool} {start : Object} {state next : Exploration}

/-! ## Along a run

The invariant holds as long as nothing has failed. A failure ends the run, so that it holds before the
last step at least; and what this step was about is reached. -/

theorem Run.invariant (h : Run store grouping start state) (hf : state.failure = none) :
    Invariant store grouping start state := by
  induction h with
  | refl => exact invariant_initial
  | tail _ hs ih => exact (ih hs.failure_eq_none).step hs hf

/-- A failure comes from something that is reached: relations that cannot be read, or a refused call. -/
theorem Run.not_visitable (h : Run store grouping start state) (hf : state.failure ≠ none) :
    ¬ store.Visitable start := by
  intro hall
  cases h with
  | refl => exact hf rfl
  | @tail before _ hrun hs =>
    have hinv : Invariant store grouping start before := Run.invariant hrun hs.failure_eq_none
    cases hs with
    | skip hf₀ => exact hf hf₀
    | @enter object rest hf₀ hv =>
      have hreach : store.Reaches start object := hinv.reached (.pending object) (by simp [hv])
      rw [failure_tell _ _ (hall.accepted (.process hreach))] at hf
      exact hf hf₀
    | read hf₀ => exact hf hf₀
    | @fail object error rest _ hv hr =>
      have hreach : store.Reaches start object := hinv.reached (.entered object) (by simp [hv])
      obtain ⟨relations, hok⟩ := hall.read hreach
      rw [hr] at hok
      cases hok
    | @report object relation reported left rest hf₀ hv =>
      have hmem : Visit.reporting object reported (relation :: left) ∈ before.visits := by simp [hv]
      have hreach : store.Reaches start object := hinv.reached _ hmem
      obtain ⟨_, hr, _⟩ := hinv.agrees _ hmem
      rw [failure_tell _ _ (hall.accepted (.edge hreach hr (by simp)))] at hf
      exact hf hf₀
    | spread hf₀ => exact hf hf₀

/-! ## The end of a run

An object can only be missed where another one with its identifier has left the mark. With one object for
each identifier, what is covered is settled at the end, and the induction is on how an object is reached. -/

theorem exists_step {visit : Visit} (hf : state.failure = none) (hm : visit ∈ state.visits) :
    ∃ next, Step store grouping state next := by
  obtain ⟨rest, hv⟩ := Multiset.exists_cons_of_mem hm
  cases visit with
  | pending object =>
    by_cases hid : object.id ∈ state.visited
    · exact ⟨_, .skip hf hv hid⟩
    · exact ⟨_, .enter hf hv hid⟩
  | entered object =>
    cases hr : store.relations object with
    | error error => exact ⟨_, .fail hf hv hr⟩
    | ok relations => exact ⟨_, .read hf hv hr⟩
  | reporting object reported left =>
    -- as long as relations are left, one of them can be reported
    cases left with
    | nil => exact ⟨_, .spread hf hv⟩
    | cons relation left => exact ⟨_, .report hf hv⟩

/-- A run has come to its end when it has failed or when no visit is left. -/
theorem stuck_iff :
    (∀ next, ¬ Step store grouping state next) ↔ state.failure ≠ none ∨ state.visits = 0 := by
  constructor
  · intro hstuck
    by_contra hnot
    obtain ⟨hf, hv⟩ := not_or.1 hnot
    obtain ⟨visit, hm⟩ := Multiset.exists_mem_of_ne_zero hv
    obtain ⟨next, hs⟩ := exists_step (not_not.1 hf) hm
    exact hstuck next hs
  · rintro (hf | hv) next hs
    · exact hf hs.failure_eq_none
    · cases hs <;> simp_all

/-- Where no visit is left, an object that was taken care of is settled. -/
theorem Invariant.settled_of_covered (h : Invariant store grouping start state)
    (hid : store.Consistent start) (hv : state.visits = 0) {object : Object}
    (hreach : store.Reaches start object) (hc : state.Covered object) :
    state.Settled store object := by
  have hmem : object.id ∈ state.visited := hc.resolve_right (by simp [hv])
  obtain ⟨other, hother, heq, ⟨visit, hvis, _⟩ | hs⟩ := h.marked _ hmem
  · rw [hv] at hvis
    exact absurd hvis (Multiset.notMem_zero visit)
  · -- the mark may have been left by another object, but not by one with the same identifier
    have hsame : other = object := hother.eq_of_id hid hreach heq
    rw [← hsame]
    exact hs

theorem Invariant.settled (h : Invariant store grouping start state)
    (hid : store.Consistent start) (hv : state.visits = 0) {object : Object}
    (hreach : store.Reaches start object) : state.Settled store object := by
  induction hreach with
  | start => exact h.settled_of_covered hid hv .start h.covered
  | @step before relations relation hbefore hr hm ih =>
    obtain ⟨known, hknown, _, hall⟩ := ih
    rw [hr] at hknown
    cases hknown
    exact h.settled_of_covered hid hv (hbefore.step hr hm) (hall relation hm).2

namespace CompleteRun

theorem visits_eq_zero (h : CompleteRun store grouping start state) (hf : state.failure = none) :
    state.visits = 0 :=
  (stuck_iff.1 h.stuck).resolve_left fun hne => hne hf

/-- **A complete run without failure has made exactly the calls of all reached objects.** -/
theorem mem_calls_iff (h : CompleteRun store grouping start state) (hid : store.Consistent start)
    (hf : state.failure = none) {call : Call} :
    call ∈ state.calls ↔ store.Reports start call := by
  have hinv : Invariant store grouping start state := h.run.invariant hf
  have hv : state.visits = 0 := h.visits_eq_zero hf
  refine ⟨hinv.reports call, fun hr => ?_⟩
  -- what is reached is settled, and being settled says which calls have been made
  cases hr with
  | process hreach =>
    obtain ⟨_, _, hp, _⟩ := hinv.settled hid hv hreach
    exact hp
  | @edge object relations relation hreach hr hm =>
    obtain ⟨known, hknown, _, hall⟩ := hinv.settled hid hv hreach
    rw [hr] at hknown
    cases hknown
    exact (hall relation hm).1

/-- If one complete run does not fail, everything reached can be visited. -/
theorem visitable (h : CompleteRun store grouping start state) (hid : store.Consistent start)
    (hf : state.failure = none) : store.Visitable start where
  read hreach := by
    obtain ⟨relations, hr, _⟩ :=
      (h.run.invariant hf).settled hid (h.visits_eq_zero hf) hreach
    exact ⟨relations, hr⟩
  accepted hr := (h.run.invariant hf).accepted _ ((h.mem_calls_iff hid hf).2 hr)

theorem recording_eq {other : Exploration} (h : CompleteRun store grouping start state)
    (h' : CompleteRun store grouping start other) (hid : store.Consistent start)
    (hf : state.failure = none) (hf' : other.failure = none) :
    state.recording = other.recording := by
  have hcons : Call.Consistent state.calls :=
    Store.consistent_of_reports hid (h.run.invariant hf).reports
  rw [(h.run.invariant hf).recording, (h'.run.invariant hf').recording]
  refine Recording.absorbAll_eq_of_same_calls (fun call _ => ?_) hcons
  rw [h.mem_calls_iff hid hf, h'.mem_calls_iff hid hf']

end CompleteRun

/-! ## No run goes on for ever

Entering a visit marks an object that was not marked, and of these there are finitely many. All other steps
mark nothing; they lower what is left to do, where reading relations has been paid for in advance. -/

/-- What can still be marked, and then what is left to do. -/
def rank (store : Store) (start : Object) (state : Exploration) : Nat × Nat :=
  (((store.within start).unvisited state.visited).length,
    (state.visits.map (Visit.weight store)).sum)

/-- Each step marks another object, or leaves less to do. -/
theorem Step.rank_lt (hs : Step store grouping state next)
    (h : Invariant store grouping start state) :
    Prod.Lex (· < ·) (· < ·) (next.rank store start) (state.rank store start) := by
  -- only `enter` marks an object; all other steps leave less to do
  cases hs with
  | skip _ hv =>
    refine Prod.Lex.right _ ?_
    rw [hv, Multiset.map_cons, Multiset.sum_cons]
    simp only [Visit.weight]
    omega
  | @enter object rest _ hv hm =>
    have hreach : store.Reaches start object := h.reached (.pending object) (by simp [hv])
    refine Prod.Lex.left _ _ ?_
    rw [visited_tell]
    exact Store.length_unvisited_within_lt hreach hm
  | read _ hv hr =>
    refine Prod.Lex.right _ ?_
    rw [hv, Multiset.map_cons, Multiset.sum_cons, Multiset.map_cons, Multiset.sum_cons]
    simp only [Visit.weight, hr, List.length_nil]
    omega
  | fail _ hv hr =>
    refine Prod.Lex.right _ ?_
    rw [hv, Multiset.map_cons, Multiset.sum_cons]
    simp only [Visit.weight, hr]
    omega
  | report _ hv =>
    unfold rank
    rw [visited_tell, visits_tell, hv]
    refine Prod.Lex.right _ ?_
    rw [Multiset.map_cons, Multiset.sum_cons, Multiset.map_cons, Multiset.sum_cons]
    simp only [Visit.weight, List.length_append, List.length_cons, List.length_nil]
    omega
  | spread _ hv =>
    refine Prod.Lex.right _ ?_
    rw [hv, Multiset.map_add, Multiset.sum_add, Multiset.map_cons, Multiset.sum_cons,
      Visit.sum_weight_following]
    simp only [Visit.weight, List.length_nil]
    omega

/-- **No run goes on for ever.** -/
theorem Run.acc {state : Exploration} (h : Run store grouping start state) :
    Acc (fun next state => Step store grouping state next) state := by
  refine Acc.intro state fun next hs => ?_
  -- the recursion follows the steps, and the rank is lower after each of them
  have hlt := hs.rank_lt (h.invariant hs.failure_eq_none)
  exact Run.acc (h.tail hs)
termination_by state.rank store start
decreasing_by exact hlt

/-- So every run can be brought to its end. -/
theorem Run.exists_complete (h : Run store grouping start state) :
    ∃ final, Relation.ReflTransGen (Step store grouping) state final ∧
      CompleteRun store grouping start final := by
  -- induction on what can still come: a run that is not over takes any step and goes on
  induction h.acc with
  | intro state _ ih =>
    by_cases hstuck : ∀ next, ¬ Step store grouping state next
    · exact ⟨state, .refl, h, hstuck⟩
    · obtain ⟨next, hs⟩ := not_forall_not.1 hstuck
      obtain ⟨final, hrun, hcomplete⟩ := ih next hs (h.tail hs)
      exact ⟨final, hrun.head hs, hcomplete⟩

/-! ## The outcome

That runs end, when they fail and what they leave behind does not depend on the order of steps. The first
holds by a rank, the second because reached objects decide it, and the third because equal sets of calls
leave equal recordings. -/

/-- **How the visits interleave does not count.** Every run comes to an end; either all complete runs
fail or none does; and complete runs without failure have the same objects processed, report the same
relations and show the same graph. -/
theorem complete_runs_agree (store : Store) (view : View) (start : Object)
    (hid : store.Consistent start) :
    (∀ state, Run store view.grouping start state →
      Acc (fun next state => Step store view.grouping state next) state) ∧
    ((∀ state, CompleteRun store view.grouping start state → state.failure ≠ none) ∨
      ∀ state, CompleteRun store view.grouping start state → state.failure = none) ∧
    ∀ a b, CompleteRun store view.grouping start a → CompleteRun store view.grouping start b →
      a.failure = none → b.failure = none →
      (∀ object, .process object ∈ a.calls ↔ .process object ∈ b.calls) ∧
      (∀ parent child, .edge parent child ∈ a.calls ↔ .edge parent child ∈ b.calls) ∧
      ∀ selected, a.recording.graph view selected = b.recording.graph view selected := by
  refine ⟨fun state h => h.acc, ?_, fun a b ha hb hfa hfb => ?_⟩
  · -- whether a run fails only depends on what is reached, and not on the run
    by_cases hall : store.Visitable start
    · refine Or.inr fun state h => ?_
      by_contra hf
      exact h.run.not_visitable hf hall
    · refine Or.inl fun state h hf => ?_
      exact hall (h.visitable hid hf)
  · have hsame : ∀ call, call ∈ a.calls ↔ call ∈ b.calls := fun call => by
      rw [ha.mem_calls_iff hid hfa, hb.mem_calls_iff hid hfb]
    have heq : a.recording = b.recording := ha.recording_eq hb hid hfa hfb
    exact ⟨fun object => hsame _, fun parent child => hsame _, fun selected => by rw [heq]⟩

/-- Around the service of the small cluster, whose pods lead back to it and to each other: there is a
complete run, none of them fails, and all show the same graph. -/
theorem complete_runs_agree_of_sample :
    Sample.store.Consistent Sample.service ∧
      (∃ state, CompleteRun Sample.store true Sample.service state) ∧
      (∀ state, CompleteRun Sample.store true Sample.service state → state.failure = none) ∧
      ∀ a b, CompleteRun Sample.store true Sample.service a →
        CompleteRun Sample.store true Sample.service b →
        ∀ selected, a.recording.graph Sample.view selected = b.recording.graph Sample.view selected := by
  have hid : Sample.store.Consistent Sample.service :=
    Store.consistent_of_nodup (by simp [Sample.store]) (by decide +kernel)
  have hall : Sample.store.Visitable Sample.service := by
    refine Store.visitable_of_objects ?_
    decide +kernel
  obtain ⟨_, hfail, hsame⟩ := complete_runs_agree Sample.store Sample.view Sample.service hid
  have hbegin : Run Sample.store true Sample.service (initial Sample.service) := .refl
  obtain ⟨final, _, hfinal⟩ := hbegin.exists_complete
  have hnone : ∀ state, CompleteRun Sample.store true Sample.service state →
      state.failure = none := by
    refine hfail.resolve_left fun hevery => ?_
    exact hfinal.run.not_visitable (hevery final hfinal) hall
  exact ⟨hid, ⟨final, hfinal⟩, hnone,
    fun a b ha hb => (hsame a b ha hb (hnone a ha) (hnone b hb)).2.2⟩

end Exploration

end ClusterGraph
