import ClusterGraph.Proofs.Recording.Contents
import ClusterGraph.Proofs.Sample

/-!
# The order of calls does not count

Calls come from workers that run side by side, so their order and their number are a matter of chance.
As long as one identifier stands for one object, a recording only depends on which calls were accepted
at all:

* **`absorbAll_eq_of_same_calls`** — two runs with the same accepted calls end in the same recording.
* **`snapshots_eq_of_same_calls`** — so whatever is shown of it is the same: edges, nodes or the reason
  why there are none, the highlighted node, and the whole graph.

The contents of a recording are already known as sets of what the calls say (`Recording/Contents`); what
is left is that equal contents make equal recordings.
-/

namespace ClusterGraph

attribute [ext] Recording

namespace Call

/-- The object occurs in an accepted one of the calls. -/
def Occurs (calls : List Call) (object : Object) : Prop :=
  ∃ call ∈ calls, call.IsAccepted ∧ object ∈ call.objects

/-- Objects of accepted calls that have the same identifier are the same. -/
def Consistent (calls : List Call) : Prop :=
  ∀ a b, Occurs calls a → Occurs calls b → a.id = b.id → a = b

theorem Processes.isAccepted {call : Call} {object : Object} (h : call.Processes object) :
    call.IsAccepted := h.1

theorem Relates.isAccepted {grouping : Bool} {call : Call} {first second : Object}
    (h : call.Relates grouping first second) : call.IsAccepted := h.1

theorem Notes.occurs {grouping : Bool} {calls : List Call} {call : Call} {object : Object}
    (hm : call ∈ calls) (h : call.Notes grouping object) : Occurs calls object :=
  ⟨call, hm, h.isAccepted, h.mem_objects⟩

end Call

namespace Recording

variable {grouping : Bool} {calls others : List Call}

/-! ## Equal contents

Two recordings are equal if their three parts are. Identifiers and edges are sets, for which the members
suffice; of the edges one also has to know that no source is kept without targets. For the objects it
takes the condition on identifiers: without it the last call would win. -/

theorem edges_eq_of_targets_eq {a b : Recording} (ha : a.WellFormed) (hb : b.WellFormed)
    (h : ∀ source, a.targets source = b.targets source) : a.edges = b.edges := by
  refine Std.ExtTreeMap.ext_getElem? fun source => ?_
  have hs := h source
  unfold targets at hs
  -- a source without targets would be invisible to `targets`, and well-formed recordings have none
  cases hka : a.edges[source]? with
  | none =>
    cases hkb : b.edges[source]? with
    | none => rfl
    | some keys =>
      obtain ⟨target, ht⟩ := hb.sources hkb
      rw [hka, hkb, Option.getD_none, Option.getD_some] at hs
      rw [← hs] at ht
      exact absurd ht Std.ExtTreeSet.not_mem_empty
  | some keys =>
    obtain ⟨target, ht⟩ := ha.sources hka
    cases hkb : b.edges[source]? with
    | none =>
      rw [hka, hkb, Option.getD_none, Option.getD_some] at hs
      rw [hs] at ht
      exact absurd ht Std.ExtTreeSet.not_mem_empty
    | some keys' =>
      rw [hka, hkb, Option.getD_some, Option.getD_some] at hs
      rw [hs]

/-- Where identifiers stand for one object each, what a call has noted is what is kept. -/
theorem getElem?_objects_of_notes (hid : Call.Consistent calls) {call : Call} (hm : call ∈ calls)
    {object : Object} (hn : call.Notes grouping object) :
    (absorbAll grouping calls).objects[object.id]? = some object := by
  have hmem : object.id ∈ (absorbAll grouping calls).objects :=
    mem_objects_absorbAll.2 ⟨call, hm, object, hn, rfl⟩
  obtain ⟨kept, hk⟩ := Dict.mem_iff_exists.1 hmem
  -- some object is kept under this identifier, and there is only one that it can be
  obtain ⟨hkid, call', hm', hn'⟩ := exists_noted_of_objects hk
  rw [hk, hid kept object (hn'.occurs hm') (hn.occurs hm) hkid]

/-- What one run keeps under an identifier, every run keeps that has at least its calls. -/
theorem objects_mono (hsub : ∀ call, call.IsAccepted → call ∈ calls → call ∈ others)
    (hid : Call.Consistent others) {id : String} {object : Object}
    (h : (absorbAll grouping calls).objects[id]? = some object) :
    (absorbAll grouping others).objects[id]? = some object := by
  obtain ⟨rfl, call, hm, hn⟩ := exists_noted_of_objects h
  exact getElem?_objects_of_notes hid (hsub call hn.isAccepted hm) hn

theorem objects_eq_of_same_calls (hsame : ∀ call, call.IsAccepted → (call ∈ calls ↔ call ∈ others))
    (hid : Call.Consistent calls) :
    (absorbAll grouping calls).objects = (absorbAll grouping others).objects := by
  have hid' : Call.Consistent others := by
    rintro a b ⟨ca, hma, hca, ha⟩ ⟨cb, hmb, hcb, hb⟩ hab
    exact hid a b ⟨ca, (hsame ca hca).2 hma, hca, ha⟩ ⟨cb, (hsame cb hcb).2 hmb, hcb, hb⟩ hab
  -- each run has the calls of the other one, so that `objects_mono` applies both ways
  refine Std.ExtTreeMap.ext_getElem? fun id => ?_
  refine Option.ext fun object => ⟨fun h => ?_, fun h => ?_⟩
  · exact objects_mono (fun call ha hm => (hsame call ha).1 hm) hid' h
  · exact objects_mono (fun call ha hm => (hsame call ha).2 hm) hid h

/-- What only accepted calls do is done by one of the calls if it is done by one of the others. -/
theorem exists_call_iff (hsame : ∀ call, call.IsAccepted → (call ∈ calls ↔ call ∈ others))
    {does : Call → Prop} (haccepted : ∀ call, does call → call.IsAccepted) :
    (∃ call ∈ calls, does call) ↔ ∃ call ∈ others, does call := by
  constructor
  · rintro ⟨call, hm, h⟩
    exact ⟨call, (hsame call (haccepted call h)).1 hm, h⟩
  · rintro ⟨call, hm, h⟩
    exact ⟨call, (hsame call (haccepted call h)).2 hm, h⟩

theorem processed_eq_of_same_calls
    (hsame : ∀ call, call.IsAccepted → (call ∈ calls ↔ call ∈ others)) :
    (absorbAll grouping calls).processed = (absorbAll grouping others).processed := by
  refine Std.ExtTreeSet.ext_mem fun id => ?_
  rw [mem_processed_absorbAll, mem_processed_absorbAll]
  exact exists_call_iff hsame fun call ⟨_, hp, _⟩ => hp.isAccepted

theorem targets_eq_of_same_calls
    (hsame : ∀ call, call.IsAccepted → (call ∈ calls ↔ call ∈ others)) (source : String) :
    (absorbAll grouping calls).targets source = (absorbAll grouping others).targets source := by
  refine Std.ExtTreeSet.ext_mem fun target => ?_
  rw [mem_targets_absorbAll, mem_targets_absorbAll]
  exact exists_call_iff hsame fun call ⟨_, _, hr, _⟩ => hr.isAccepted

/-- **Runs with the same accepted calls end in the same recording**, in whatever order and how often
the calls come, and whatever is refused in between. -/
theorem absorbAll_eq_of_same_calls
    (hsame : ∀ call, call.IsAccepted → (call ∈ calls ↔ call ∈ others))
    (hid : Call.Consistent calls) : absorbAll grouping calls = absorbAll grouping others := by
  refine Recording.ext (objects_eq_of_same_calls hsame hid) (processed_eq_of_same_calls hsame) ?_
  exact edges_eq_of_targets_eq (reachable_absorbAll grouping calls).wellFormed
    (reachable_absorbAll grouping others).wellFormed (targets_eq_of_same_calls hsame)

/-- **What is shown only depends on which calls were accepted**: the edges, the nodes or the error that
stands for them, the highlighted node for whatever is selected, and the graph made of all of these. -/
theorem snapshots_eq_of_same_calls (view : View) {calls others : List Call}
    (hsame : ∀ call, call.IsAccepted → (call ∈ calls ↔ call ∈ others))
    (hid : Call.Consistent calls) :
    (absorbAll view.grouping calls).adjacencyList view.grouping =
        (absorbAll view.grouping others).adjacencyList view.grouping ∧
      (absorbAll view.grouping calls).nodes view = (absorbAll view.grouping others).nodes view ∧
      (∀ selected, (absorbAll view.grouping calls).selection view.grouping selected =
        (absorbAll view.grouping others).selection view.grouping selected) ∧
      ∀ selected, (absorbAll view.grouping calls).graph view selected =
        (absorbAll view.grouping others).graph view selected := by
  have heq : absorbAll view.grouping calls = absorbAll view.grouping others :=
    absorbAll_eq_of_same_calls hsame hid
  rw [heq]
  exact ⟨rfl, rfl, fun _ => rfl, fun _ => rfl⟩

/-- A relation reported by a pod of a group before anything is processed, against the same calls the
other way round, with repetitions and with a refused call among them. -/
theorem snapshots_eq_of_mixed_calls :
    let calls := [.edge (Sample.pod "p1") Sample.replicaSet, .process Sample.replicaSet,
      .process (Sample.pod "p1")]
    let others := [.process (Sample.pod "p1"), .edge Sample.nothing Sample.replicaSet,
      .process Sample.replicaSet, .edge (Sample.pod "p1") Sample.replicaSet,
      .process (Sample.pod "p1")]
    (absorbAll true calls).adjacencyList true = (absorbAll true others).adjacencyList true ∧
      (absorbAll true calls).nodes Sample.view = (absorbAll true others).nodes Sample.view ∧
      (∀ selected, (absorbAll true calls).selection true selected =
        (absorbAll true others).selection true selected) ∧
      ∀ selected, (absorbAll true calls).graph Sample.view selected =
        (absorbAll true others).graph Sample.view selected := by
  refine snapshots_eq_of_same_calls Sample.view (fun call ha => ?_) ?_
  · have hne : call ≠ .edge Sample.nothing Sample.replicaSet := by
      rintro rfl
      exact absurd ha (by decide)
    simp only [List.mem_cons, List.not_mem_nil, hne, or_false, false_or]
    tauto
  · -- the replica set and the pod are told apart by their identifiers
    have hne : Sample.replicaSet.id ≠ (Sample.pod "p1").id := by decide
    have hocc : ∀ object, Call.Occurs [.edge (Sample.pod "p1") Sample.replicaSet,
        .process Sample.replicaSet, .process (Sample.pod "p1")] object →
        object = Sample.replicaSet ∨ object = Sample.pod "p1" := by
      rintro object ⟨call, hm, _, ho⟩
      simp only [List.mem_cons, List.not_mem_nil, or_false] at hm
      rcases hm with rfl | rfl | rfl <;>
        simp only [Call.objects, List.mem_cons, List.not_mem_nil, or_false] at ho <;> tauto
    intro a b ha hb hab
    rcases hocc a ha with rfl | rfl <;> rcases hocc b hb with rfl | rfl
    · rfl
    · exact absurd hab hne
    · exact absurd hab.symm hne
    · rfl

end Recording

end ClusterGraph
