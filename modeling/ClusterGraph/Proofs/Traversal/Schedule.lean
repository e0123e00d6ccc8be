import Mathlib.Data.Multiset.MapFold
import Mathlib.Logic.Relation
import ClusterGraph.Proofs.Traversal.Reach

/-!
# Visits that run side by side

The visits of related objects run at the same time and share what is marked as visited. Here any visit
may take the next step at any moment:

* a visit that has not begun marks its object and has it processed, unless the object is marked already;
* then it reads the relations of the object;
* then it reports them, one after another;
* then it ends, and a visit of each related object begins.

The first failure ends the whole exploration: `Step` has no step after it. What is true of every run of
such steps is stated by `Invariant`, and `Run.invariant` shows it. At the end of a run without failure
nothing is left to do, so that everything reached has been visited (`Invariant.settled`).
-/

namespace ClusterGraph

/-- How far the visit of an object has come. -/
inductive Visit where
  /-- It has not begun. -/
  | pending (object : Object)
  /-- The object is marked and processed; its relations are not known. -/
  | entered (object : Object)
  /-- The relations are known; some of them have been reported and the others are left. -/
  | reporting (object : Object) (reported left : List Relation)

namespace Visit

/-- The visits to which the relations of an object give rise. -/
def following (relations : List Relation) : Multiset Visit :=
  ((relations.map fun relation => pending relation.object : List Visit) : Multiset Visit)

theorem mem_following {relations : List Relation} {visit : Visit} :
    visit ∈ following relations ↔ ∃ relation ∈ relations, pending relation.object = visit := by
  rw [following, Multiset.mem_coe, List.mem_map]

def object : Visit → Object
  | pending object => object
  | entered object => object
  | reporting object _ _ => object

def Begun : Visit → Prop
  | pending _ => False
  | entered _ => True
  | reporting _ _ _ => True

/-- The calls that a visit has made, and what it knows of the relations of its object. -/
def Agrees (store : Store) (calls : List Call) : Visit → Prop
  | pending _ => True
  | entered object => .process object ∈ calls
  | reporting object reported left =>
    .process object ∈ calls ∧ store.relations object = .ok (reported ++ left) ∧
      ∀ relation ∈ reported, relation.call object ∈ calls

theorem Agrees.mono {store : Store} {calls more : List Call} {visit : Visit}
    (h : visit.Agrees store calls) (hsub : ∀ call ∈ calls, call ∈ more) :
    visit.Agrees store more := by
  cases visit with
  | pending object => trivial
  | entered object => exact hsub _ h
  | reporting object reported left =>
    obtain ⟨hp, hr, hall⟩ := h
    exact ⟨hsub _ hp, hr, fun relation hm => hsub _ (hall relation hm)⟩

end Visit

/-- A walk under way: what is marked, which visits there are, in no order, what has been recorded and by
which calls, and what ended it early. -/
structure Exploration where
  visited : Keys := ∅
  visits : Multiset Visit
  recording : Recording := {}
  calls : List Call := []
  failure : Option VisitError := none

namespace Exploration

def initial (start : Object) : Exploration where
  visits := {.pending start}

/-- Makes a call; one that is refused is a failure. -/
def tell (state : Exploration) (grouping : Bool) (call : Call) : Exploration :=
  match state.recording.receive grouping call with
  | .ok recording => { state with recording, calls := state.calls ++ [call] }
  | .error error => { state with calls := state.calls ++ [call], failure := some (.graph error) }

/-- Some visit takes a step. -/
inductive Step (store : Store) (grouping : Bool) (state : Exploration) : Exploration → Prop where
  | skip {object : Object} {rest : Multiset Visit} (hf : state.failure = none)
      (hv : state.visits = .pending object ::ₘ rest) (hm : object.id ∈ state.visited) :
      Step store grouping state { state with visits := rest }
  | enter {object : Object} {rest : Multiset Visit} (hf : state.failure = none)
      (hv : state.visits = .pending object ::ₘ rest) (hm : object.id ∉ state.visited) :
      Step store grouping state
        (tell { state with
          visited := state.visited.insert object.id
          visits := .entered object ::ₘ rest } grouping (.process object))
  | read {object : Object} {relations : List Relation} {rest : Multiset Visit}
      (hf : state.failure = none) (hv : state.visits = .entered object ::ₘ rest)
      (hr : store.relations object = .ok relations) :
      Step store grouping state { state with visits := .reporting object [] relations ::ₘ rest }
  | fail {object : Object} {error : VisitError} {rest : Multiset Visit}
      (hf : state.failure = none) (hv : state.visits = .entered object ::ₘ rest)
      (hr : store.relations object = .error error) :
      Step store grouping state { state with visits := rest, failure := some error }
  | report {object : Object} {relation : Relation} {reported left : List Relation}
      {rest : Multiset Visit} (hf : state.failure = none)
      (hv : state.visits = .reporting object reported (relation :: left) ::ₘ rest) :
      Step store grouping state
        (tell { state with visits := .reporting object (reported ++ [relation]) left ::ₘ rest }
          grouping (relation.call object))
  | spread {object : Object} {relations : List Relation} {rest : Multiset Visit}
      (hf : state.failure = none) (hv : state.visits = .reporting object relations [] ::ₘ rest) :
      Step store grouping state
        { state with visits := Visit.following relations + rest }

/-- The steps of an exploration from its beginning. -/
def Run (store : Store) (grouping : Bool) (start : Object) : Exploration → Prop :=
  Relation.ReflTransGen (Step store grouping) (initial start)

/-- A run that has come to its end: no visit can take a step. -/
structure CompleteRun (store : Store) (grouping : Bool) (start : Object) (state : Exploration) :
    Prop where
  run : Run store grouping start state
  stuck : ∀ next, ¬ Step store grouping state next

variable {store : Store} {grouping : Bool} {start : Object} {state next : Exploration}

/-! ## Calls

A call changes what is recorded and what has been said, and nothing else about an exploration, be it
accepted or refused. -/

@[simp] theorem visited_tell (state : Exploration) (grouping : Bool) (call : Call) :
    (state.tell grouping call).visited = state.visited := by
  unfold tell
  split <;> rfl

@[simp] theorem visits_tell (state : Exploration) (grouping : Bool) (call : Call) :
    (state.tell grouping call).visits = state.visits := by
  unfold tell
  split <;> rfl

@[simp] theorem calls_tell (state : Exploration) (grouping : Bool) (call : Call) :
    (state.tell grouping call).calls = state.calls ++ [call] := by
  unfold tell
  split <;> rfl

@[simp] theorem recording_tell (state : Exploration) (grouping : Bool) (call : Call) :
    (state.tell grouping call).recording = state.recording.absorb grouping call := by
  unfold tell Recording.absorb
  cases state.recording.receive grouping call <;> rfl

theorem isAccepted_of_tell {call : Call} (h : (state.tell grouping call).failure = none) :
    call.IsAccepted := by
  by_contra ha
  obtain ⟨error, he⟩ := Recording.receive_of_not_isAccepted grouping state.recording ha
  simp [tell, he] at h

theorem failure_tell (state : Exploration) (grouping : Bool) {call : Call} (h : call.IsAccepted) :
    (state.tell grouping call).failure = state.failure := by
  obtain ⟨recording, hr⟩ := Recording.receive_of_isAccepted grouping state.recording h
  simp [tell, hr]

/-! ## What a step keeps

Marks and calls are never taken back, and a pending visit only goes away once its object is marked. So
whatever has been achieved for an object stays achieved, whichever visit takes the next step. -/

/-- The object is marked, or a visit of it will begin. -/
def Covered (state : Exploration) (object : Object) : Prop :=
  object.id ∈ state.visited ∨ .pending object ∈ state.visits

/-- The visit of the object is over: everything about it has been reported, and all related objects are
taken care of. -/
def Settled (store : Store) (state : Exploration) (object : Object) : Prop :=
  ∃ relations, store.relations object = .ok relations ∧ .process object ∈ state.calls ∧
    ∀ relation ∈ relations, relation.call object ∈ state.calls ∧ state.Covered relation.object

/-- What has been achieved stays: marks, calls, and that an object is taken care of. -/
structure Extends (state next : Exploration) : Prop where
  visited : ∀ id ∈ state.visited, id ∈ next.visited
  calls : ∀ call ∈ state.calls, call ∈ next.calls
  pending : ∀ object, .pending object ∈ state.visits → next.Covered object

theorem Extends.covered (h : state.Extends next) {object : Object} (hc : state.Covered object) :
    next.Covered object := by
  rcases hc with hc | hc
  · exact Or.inl (h.visited _ hc)
  · exact h.pending object hc

theorem Extends.settled (h : state.Extends next) {object : Object}
    (hs : state.Settled store object) : next.Settled store object := by
  obtain ⟨relations, hr, hp, hall⟩ := hs
  refine ⟨relations, hr, h.calls _ hp, fun relation hm => ?_⟩
  obtain ⟨hcall, hcovered⟩ := hall relation hm
  exact ⟨h.calls _ hcall, h.covered hcovered⟩

theorem Step.failure_eq_none (h : Step store grouping state next) : state.failure = none := by
  cases h <;> assumption

/-- All visits but the one that takes a step are left as they are. -/
theorem mem_rest {visit other : Visit} {rest : Multiset Visit} (hv : state.visits = visit ::ₘ rest)
    (hm : other ∈ state.visits) (hne : other ≠ visit) : other ∈ rest := by
  rw [hv, Multiset.mem_cons] at hm
  exact hm.resolve_left hne

/-- Each step builds on what was achieved before. -/
theorem Step.extends (h : Step store grouping state next) : state.Extends next := by
  cases h with
  | skip hf hv hm =>
    refine ⟨fun _ h => h, fun _ h => h, fun other ho => ?_⟩
    rw [hv, Multiset.mem_cons] at ho
    -- what is skipped was marked before, whoever marked it
    rcases ho with heq | ho
    · cases heq
      exact Or.inl hm
    · exact Or.inr ho
  | enter hf hv hm =>
    -- the visit is no longer pending, but its object is marked now
    refine ⟨fun id h => ?_, fun call h => ?_, fun other ho => ?_⟩
    · rw [visited_tell]
      exact Std.ExtTreeSet.mem_insert.2 (Or.inr h)
    · rw [calls_tell]
      exact List.mem_append_left _ h
    · rw [hv, Multiset.mem_cons] at ho
      rcases ho with heq | ho
      · cases heq
        exact Or.inl (by simp)
      · exact Or.inr (by simp [ho])
  | read hf hv hr =>
    refine ⟨fun _ h => h, fun _ h => h, fun other ho => Or.inr ?_⟩
    exact Multiset.mem_cons_of_mem (mem_rest hv ho (by simp))
  | fail hf hv hr =>
    exact ⟨fun _ h => h, fun _ h => h, fun other ho => Or.inr (mem_rest hv ho (by simp))⟩
  | report hf hv =>
    refine ⟨fun id h => by simpa using h, fun call h => by simp [h], fun other ho => Or.inr ?_⟩
    rw [visits_tell]
    exact Multiset.mem_cons_of_mem (mem_rest hv ho (by simp))
  | spread hf hv =>
    refine ⟨fun _ h => h, fun _ h => h, fun other ho => Or.inr ?_⟩
    exact Multiset.mem_add.2 (Or.inr (mem_rest hv ho (by simp)))

/-! ## The invariant

A mark alone does not say that its object has been visited: the visit may still be under way, in any of
the branches. What is known of a mark is that the visit behind it is there or is over (`marked`), and of a
visit that is over, that everything it gives rise to is marked or pending (`Settled`). When no visit is
left, the two close the set of visited objects under relations. -/

/-- What holds as long as nothing has failed. -/
structure Invariant (store : Store) (grouping : Bool) (start : Object) (state : Exploration) :
    Prop where
  /-- Only reached objects are visited. -/
  reached : ∀ visit ∈ state.visits, store.Reaches start visit.object
  /-- Each visit has made the calls that it should have made by now. -/
  agrees : ∀ visit ∈ state.visits, visit.Agrees store state.calls
  /-- No other calls have been made. -/
  reports : ∀ call ∈ state.calls, store.Reports start call
  /-- All calls have been taken. -/
  accepted : ∀ call ∈ state.calls, call.IsAccepted
  /-- The recording is the one of these calls. -/
  recording : state.recording = Recording.absorbAll grouping state.calls
  /-- The start is taken care of. -/
  covered : state.Covered start
  /-- A marked identifier is that of an object whose visit has begun or is over. -/
  marked : ∀ id ∈ state.visited, ∃ object, store.Reaches start object ∧ object.id = id ∧
    ((∃ visit ∈ state.visits, visit.Begun ∧ visit.object = object) ∨ state.Settled store object)

theorem invariant_initial : Invariant store grouping start (initial start) where
  reached visit hm := by
    rw [initial, Multiset.mem_singleton] at hm
    rw [hm]
    exact .start
  agrees visit hm := by
    rw [initial, Multiset.mem_singleton] at hm
    rw [hm]
    trivial
  reports call hm := by simp [initial] at hm
  accepted call hm := by simp [initial] at hm
  recording := rfl
  covered := Or.inr (Multiset.mem_singleton_self _)
  marked id hm := by simp [initial] at hm

/-- **One visit gives way to others.** They agree with the calls by then, each new call is about a reached
object, each new mark belongs to one of them, and a visit that had begun goes on or is over. -/
theorem Invariant.replace (h : Invariant store grouping start state) (hext : state.Extends next)
    {visit : Visit} {rest : Multiset Visit} (hv : state.visits = visit ::ₘ rest)
    (more : Multiset Visit) (hv' : next.visits = more + rest)
    (hmore : ∀ other ∈ more, store.Reaches start other.object ∧ other.Agrees store next.calls)
    (hcalls : ∀ call ∈ next.calls, call ∈ state.calls ∨
      store.Reports start call ∧ call.IsAccepted)
    (hrec : next.recording = Recording.absorbAll grouping next.calls)
    (hmarked : ∀ id ∈ next.visited, id ∈ state.visited ∨
      ∃ other ∈ more, other.Begun ∧ other.object.id = id)
    (hover : visit.Begun → (∃ other ∈ more, other.Begun ∧ other.object = visit.object) ∨
      next.Settled store visit.object) : Invariant store grouping start next := by
  have hrest : ∀ other ∈ rest, other ∈ state.visits := fun other ho => by
    rw [hv]
    exact Multiset.mem_cons_of_mem ho
  refine ⟨fun other ho => ?_, fun other ho => ?_, fun call hc => ?_, fun call hc => ?_, hrec,
    hext.covered h.covered, fun id hid => ?_⟩
  · rw [hv', Multiset.mem_add] at ho
    exact ho.elim (fun ho => (hmore other ho).1) fun ho => h.reached other (hrest other ho)
  · rw [hv', Multiset.mem_add] at ho
    exact ho.elim (fun ho => (hmore other ho).2) fun ho =>
      (h.agrees other (hrest other ho)).mono hext.calls
  · exact (hcalls call hc).elim (h.reports call) And.left
  · exact (hcalls call hc).elim (h.accepted call) And.right
  · -- an old mark follows its visit: to the one that takes its place, to itself, or to its end
    rw [hv']
    rcases hmarked id hid with hid | ⟨other, ho, hb, rfl⟩
    · obtain ⟨object, hreach, rfl, ⟨other, ho, hb, rfl⟩ | hs⟩ := h.marked id hid
      · refine ⟨other.object, hreach, rfl, ?_⟩
        rw [hv, Multiset.mem_cons] at ho
        rcases ho with rfl | ho
        · rcases hover hb with ⟨another, ha, hb', heq⟩ | hs
          · exact Or.inl ⟨another, Multiset.mem_add.2 (Or.inl ha), hb', heq⟩
          · exact Or.inr hs
        · exact Or.inl ⟨other, Multiset.mem_add.2 (Or.inr ho), hb, rfl⟩
      · exact ⟨object, hreach, rfl, Or.inr (hext.settled hs)⟩
    · exact ⟨other.object, (hmore other ho).1, rfl,
        Or.inl ⟨other, Multiset.mem_add.2 (Or.inl ho), hb, rfl⟩⟩

/-- A step without failure keeps the invariant. -/
theorem Invariant.step (h : Invariant store grouping start state)
    (hs : Step store grouping state next) (hf : next.failure = none) :
    Invariant store grouping start next := by
  -- each kind of step replaces one visit, and `Invariant.replace` asks what the new ones are
  have hext := hs.extends
  cases hs with
  | @skip object rest _ hv hm =>
    refine h.replace hext hv 0 (Multiset.zero_add rest).symm ?_ ?_ h.recording ?_ ?_
    · intro other ho
      exact absurd ho (Multiset.notMem_zero other)
    · exact fun call hc => Or.inl hc
    · exact fun id hid => Or.inl hid
    · exact fun hb => hb.elim
  | @enter object rest _ hv hm =>
    have hreach : store.Reaches start object := h.reached (.pending object) (by simp [hv])
    have hacc : (Call.process object).IsAccepted := isAccepted_of_tell hf
    refine h.replace hext hv {.entered object} (by simp) ?_ ?_ ?_ ?_ ?_
    · intro other ho
      rw [Multiset.mem_singleton] at ho
      subst ho
      exact ⟨hreach, by simp [Visit.Agrees]⟩
    · intro call hc
      rw [calls_tell, List.mem_append, List.mem_singleton] at hc
      rcases hc with hc | rfl
      · exact Or.inl hc
      · exact Or.inr ⟨.process hreach, hacc⟩
    · rw [recording_tell, calls_tell, Recording.absorbAll_append, ← h.recording]
      rfl
    · intro id hid
      rw [visited_tell] at hid
      rcases Std.ExtTreeSet.mem_insert.1 hid with heq | hid
      · have heq : object.id = id := Std.LawfulEqCmp.compare_eq_iff_eq.1 heq
        exact Or.inr ⟨.entered object, Multiset.mem_singleton_self _, trivial, heq⟩
      · exact Or.inl hid
    · exact fun hb => hb.elim
  | @read object relations rest _ hv hr =>
    have hmem : Visit.entered object ∈ state.visits := by simp [hv]
    have hreach : store.Reaches start object := h.reached _ hmem
    refine h.replace hext hv {.reporting object [] relations} (by simp) ?_ ?_ h.recording
      ?_ ?_
    · intro other ho
      rw [Multiset.mem_singleton] at ho
      subst ho
      exact ⟨hreach, h.agrees _ hmem, hr, by simp⟩
    · exact fun call hc => Or.inl hc
    · exact fun id hid => Or.inl hid
    · exact fun _ => Or.inl ⟨_, Multiset.mem_singleton_self _, trivial, rfl⟩
  | fail => cases hf
  | @report object relation reported left rest _ hv =>
    have hmem : Visit.reporting object reported (relation :: left) ∈ state.visits := by simp [hv]
    have hreach : store.Reaches start object := h.reached _ hmem
    obtain ⟨hp, hr, hall⟩ := h.agrees _ hmem
    have hacc : (relation.call object).IsAccepted := isAccepted_of_tell hf
    refine h.replace hext hv {.reporting object (reported ++ [relation]) left} (by simp)
      ?_ ?_ ?_ ?_ ?_
    · intro other ho
      rw [Multiset.mem_singleton] at ho
      subst ho
      refine ⟨hreach, hext.calls _ hp, by rw [hr]; simp, fun done hd => ?_⟩
      rw [calls_tell]
      rcases List.mem_append.1 hd with hd | hd
      · exact List.mem_append_left _ (hall done hd)
      · rw [List.mem_singleton.1 hd]
        exact List.mem_append_right _ List.mem_cons_self
    · intro call hc
      rw [calls_tell, List.mem_append, List.mem_singleton] at hc
      rcases hc with hc | rfl
      · exact Or.inl hc
      · exact Or.inr ⟨.edge hreach hr (by simp), hacc⟩
    · rw [recording_tell, calls_tell, Recording.absorbAll_append, ← h.recording]
      rfl
    · intro id hid
      rw [visited_tell] at hid
      exact Or.inl hid
    · exact fun _ => Or.inl ⟨_, Multiset.mem_singleton_self _, trivial, rfl⟩
  | @spread object relations rest _ hv =>
    have hmem : Visit.reporting object relations [] ∈ state.visits := by simp [hv]
    have hreach : store.Reaches start object := h.reached _ hmem
    obtain ⟨hp, hr, hall⟩ := h.agrees _ hmem
    rw [List.append_nil] at hr
    refine h.replace hext hv (Visit.following relations) rfl ?_ ?_ h.recording ?_ ?_
    · intro other ho
      obtain ⟨relation, hm, rfl⟩ := Visit.mem_following.1 ho
      exact ⟨hreach.step hr hm, trivial⟩
    · exact fun call hc => Or.inl hc
    · exact fun id hid => Or.inl hid
    · -- the visit is over, and the related objects are pending from now on
      intro _
      refine Or.inr ⟨relations, hr, hp, fun relation hm => ⟨hall relation hm, Or.inr ?_⟩⟩
      exact Multiset.mem_add.2 (Or.inl (Visit.mem_following.2 ⟨relation, hm, rfl⟩))

end Exploration

end ClusterGraph
