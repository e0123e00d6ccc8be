import Mathlib.Data.List.Nodup
import ClusterGraph.Proofs.Recording.Order

/-!
# What is connected with an object

The least set of objects that holds the start and, with each object, those that its relations lead to.
A walk is meant to visit this set, and to make the calls that `Reports` lists:

* **`Reaches.mem`** — apart from the start, only objects of the store are reached.
* **`Reports.reaches`** — every object that a call mentions is reached, also at the far end of a
  relation.

Whether all calls can be made at all is `Store.Visitable`: it only depends on the store and the start.
-/

namespace ClusterGraph

namespace Relation

/-! ## Calls about a relation

A visit reports each relation with one call, which has the visited object at the end that the direction of
the relation says. -/

def call (visited : Object) (relation : Relation) : Call :=
  .edge (relation.ends visited).1 (relation.ends visited).2

/-- A relation is reported with the visited object at one end and the related one at the other. -/
theorem call_cases (visited : Object) (relation : Relation) :
    relation.call visited = .edge relation.object visited ∨
      relation.call visited = .edge visited relation.object := by
  cases relation with
  | incoming object => exact Or.inl rfl
  | outgoing object => exact Or.inr rfl

theorem mem_objects_call {visited object : Object} {relation : Relation} :
    object ∈ (relation.call visited).objects ↔ object = visited ∨ object = relation.object := by
  rcases relation.call_cases visited with h | h <;> simp [h, Call.objects, or_comm]

end Relation

namespace Store

theorem edge_mem_visitCalls_iff {object parent child : Object} {relations : List Relation} :
    .edge parent child ∈ visitCalls object relations ↔
      ∃ relation ∈ relations, relation.call object = .edge parent child := by
  rw [visitCalls, List.mem_cons, List.mem_map]
  exact or_iff_right Call.noConfusion

/-! ## Reached objects

`Reaches` is what can be got at over relations, with no marks and no order of visits. As relations lead to
objects of the store, there are finitely many of these objects. -/

/-- The objects that relations lead to from a start, step after step. -/
inductive Reaches (store : Store) (start : Object) : Object → Prop where
  | start : Reaches store start start
  | step {object : Object} {relations : List Relation} {relation : Relation}
      (h : Reaches store start object) (hr : store.relations object = .ok relations)
      (hm : relation ∈ relations) : Reaches store start relation.object

/-- Objects with the same identifier are the same, among those of the store and a start. -/
def Consistent (store : Store) (start : Object) : Prop :=
  ∀ a ∈ start :: store.objects, ∀ b ∈ start :: store.objects, a.id = b.id → a = b

variable {store : Store} {start : Object}

theorem consistent_of_nodup (hm : start ∈ store.objects)
    (hnd : (store.objects.map Object.id).Nodup) : store.Consistent start := by
  have hmem : ∀ object ∈ start :: store.objects, object ∈ store.objects := fun object ho =>
    (List.mem_cons.1 ho).elim (fun heq => heq ▸ hm) id
  intro a ha b hb hab
  exact List.inj_on_of_nodup_map hnd (hmem a ha) (hmem b hb) hab

theorem Reaches.mem {object : Object} (h : store.Reaches start object) :
    object ∈ start :: store.objects := by
  cases h with
  | start => exact List.mem_cons_self
  | step _ hr hm => exact List.mem_cons_of_mem _ (mem_of_relations hr hm)

theorem Reaches.eq_of_id {a b : Object} (hid : store.Consistent start) (ha : store.Reaches start a)
    (hb : store.Reaches start b) (hab : a.id = b.id) : a = b :=
  hid a ha.mem b hb.mem hab

/-! ## What is reported about them

One call for each reached object and one for each of its relations. The ends of all these relations are
reached as well, so that the calls never mention anything else. -/

/-- The calls that the visits of all reached objects make. -/
inductive Reports (store : Store) (start : Object) : Call → Prop where
  | process {object : Object} (h : store.Reaches start object) : Reports store start (.process object)
  | edge {object : Object} {relations : List Relation} {relation : Relation}
      (h : store.Reaches start object) (hr : store.relations object = .ok relations)
      (hm : relation ∈ relations) : Reports store start (relation.call object)

theorem Reports.reaches {call : Call} (h : store.Reports start call) {object : Object}
    (hm : object ∈ call.objects) : store.Reaches start object := by
  cases h with
  | process h =>
    have heq : object = _ := List.mem_singleton.1 hm
    rw [heq]
    exact h
  | edge h hr hrel =>
    -- of the two ends one was visited, and the other one is a step further
    rcases Relation.mem_objects_call.1 hm with rfl | rfl
    · exact h
    · exact h.step hr hrel

/-- A reported relation is one of a reached object, in one direction or the other. -/
theorem reports_edge_iff {parent child : Object} :
    store.Reports start (.edge parent child) ↔
      ∃ object relations relation, store.Reaches start object ∧
        store.relations object = .ok relations ∧ relation ∈ relations ∧
        relation.call object = .edge parent child := by
  constructor
  · intro h
    -- `cases` needs the call as a variable
    generalize hc : Call.edge parent child = call at h
    cases h with
    | process h => cases hc
    | edge h hr hm => exact ⟨_, _, _, h, hr, hm, rfl⟩
  · rintro ⟨object, relations, relation, h, hr, hm, hc⟩
    rw [← hc]
    exact .edge h hr hm

/-- Everything that is reached can be visited: its relations can be read, and every call about it is
taken. -/
structure Visitable (store : Store) (start : Object) : Prop where
  read : ∀ {object : Object}, store.Reaches start object →
    ∃ relations, store.relations object = .ok relations
  accepted : ∀ {call : Call}, store.Reports start call → call.IsAccepted

/-- It is enough that the objects of the store and the start are not empty, and that all of them can be
read. -/
theorem visitable_of_objects
    (h : ∀ object ∈ start :: store.objects,
      object.isEmpty = false ∧ (store.relations object).isOk = true) : store.Visitable start where
  read {object} hreach := by
    -- what is reached is in the store or is the start
    have hok := (h object hreach.mem).2
    cases hr : store.relations object with
    | ok relations => exact ⟨relations, rfl⟩
    | error error => rw [hr] at hok; cases hok
  accepted hr object hm := (h object (hr.reaches hm).mem).1

/-- Where identifiers stand for one object each, they do so among all calls of a walk. -/
theorem consistent_of_reports (hid : store.Consistent start) {calls : List Call}
    (h : ∀ call ∈ calls, store.Reports start call) : Call.Consistent calls := by
  rintro a b ⟨call, hc, _, ha⟩ ⟨call', hc', _, hb⟩ hab
  exact ((h call hc).reaches ha).eq_of_id hid ((h call' hc').reaches hb) hab

/-! ## Visiting everything

A mark is left for an object of the store or for the start. With the start among the objects, the objects
without a mark can be counted, and each visit leaves fewer of them. -/

/-- The objects that a walk can mark. -/
def within (store : Store) (start : Object) : Store :=
  { store with objects := start :: store.objects }

theorem length_unvisited_within_lt {object : Object} (h : store.Reaches start object) {visited : Keys}
    (hv : object.id ∉ visited) :
    ((store.within start).unvisited (visited.insert object.id)).length <
      ((store.within start).unvisited visited).length := by
  have hmem : object ∈ (store.within start).objects := h.mem
  have hnew : visited.contains object.id = false :=
    Bool.eq_false_iff.2 fun hc => hv (Std.ExtTreeSet.mem_iff_contains.2 hc)
  exact length_unvisited_insert_lt hmem hnew

end Store

end ClusterGraph
