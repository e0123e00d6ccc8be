import ClusterGraph.Graph.Recording
import ClusterGraph.Relation.Members

/-!
Walking from an object to everything that is connected with it.

Each object is visited once, by its identifier. A visit reports the object, then all of its relations,
and then goes on depth-first into the related objects in the same order. Related objects come from the
store, so that a walk ends: each visit leaves fewer objects of the store unvisited.

A walk yields a trace: the calls that it makes to its receiver, and the failure that ended it, if one
did. A receiver that refuses a call ends the walk there.
-/

namespace ClusterGraph

/-- What a walk reports. -/
inductive Call where
  | process (object : Object)
  | edge (parent child : Object)
  deriving Inhabited

/-- The calls of a walk and what ended it early. -/
structure Trace where
  calls : List Call
  failure : Option VisitError
  deriving Inhabited

namespace Trace

/-- The trace of a walk that has nothing to do. -/
def done : Trace := ⟨[], none⟩

/-- Some calls, and then the rest of a trace. -/
def after (calls : List Call) (rest : Trace) : Trace :=
  ⟨calls ++ rest.calls, rest.failure⟩

/-- The part of the calls up to and including the first one that is refused. -/
def takeUntil {ε : Type} (refuse : Call → Option ε) : List Call → List Call × Option ε
  | [] => ([], none)
  | call :: rest =>
    match refuse call with
    | some error => ([call], some error)
    | none =>
      let (calls, error) := takeUntil refuse rest
      (call :: calls, error)

/-- The trace of the same walk when its receiver refuses some calls. -/
def upTo (trace : Trace) (refuse : Call → Option GraphError) : Trace :=
  match takeUntil refuse trace.calls with
  | (calls, some error) => ⟨calls, some (.graph error)⟩
  | (_, none) => trace

/-- The objects that were processed. -/
def processed (trace : Trace) : List Object :=
  trace.calls.filterMap fun
    | .process object => some object
    | .edge _ _ => none

end Trace

namespace Store

/-- The objects of the store that have not been visited. -/
def unvisited (store : Store) (visited : Keys) : List Object :=
  store.objects.filter fun object => !visited.contains object.id

/-- A visit leaves fewer objects unvisited. -/
theorem length_unvisited_insert_lt {store : Store} {visited : Keys} {object : Object}
    (hm : object ∈ store.objects) (hv : visited.contains object.id = false) :
    (store.unvisited (visited.insert object.id)).length < (store.unvisited visited).length := by
  have heq : store.unvisited (visited.insert object.id) =
      (store.unvisited visited).filter fun o => !(visited.insert object.id).contains o.id := by
    unfold unvisited
    rw [List.filter_filter]
    refine List.filter_congr fun o _ => ?_
    rw [Std.ExtTreeSet.contains_insert]
    cases visited.contains o.id <;> simp
  rw [heq]
  refine Nat.lt_of_le_of_ne (List.length_filter_le _ _) fun hlen => ?_
  have hall := List.length_filter_eq_length_iff.1 hlen object
    (List.mem_filter.2 ⟨hm, by simp [hv]⟩)
  simp [Std.ExtTreeSet.contains_insert] at hall

/-- The calls of a visit: the object, then its relations. -/
def visitCalls (object : Object) (relations : List Relation) : List Call :=
  .process object :: relations.map fun relation =>
    let (parent, child) := relation.ends object
    .edge parent child

/-- The objects that relations lead to, as objects of the store. -/
def related (store : Store) (object : Object) (relations : List Relation)
    (h : store.relations object = .ok relations) : List { o : Object // o ∈ store.objects } :=
  relations.attach.map fun ⟨relation, hr⟩ => ⟨relation.object, mem_of_relations h hr⟩

/-- Visits the pending objects in their order, each with everything below it before the next one. -/
def explore (store : Store) (visited : Keys)
    (pending : List { object : Object // object ∈ store.objects }) : Trace :=
  match pending with
  | [] => .done
  | ⟨object, _hm⟩ :: rest =>
    if _hv : visited.contains object.id = true then store.explore visited rest
    else
      match h : store.relations object with
      | .error error => ⟨[.process object], some error⟩
      | .ok relations =>
        (store.explore (visited.insert object.id)
          (store.related object relations h ++ rest)).after (visitCalls object relations)
termination_by ((store.unvisited visited).length, pending.length)
decreasing_by
  · exact Prod.Lex.right _ (Nat.lt_succ_self _)
  · exact Prod.Lex.left _ _ (length_unvisited_insert_lt _hm (Bool.eq_false_iff.2 _hv))

/-- The walk from an object, when some identifiers count as visited. The object itself need not be in
the store. -/
def walkFrom (store : Store) (visited : Keys) (start : Object) : Trace :=
  if visited.contains start.id then .done
  else
    match h : store.relations start with
    | .error error => ⟨[.process start], some error⟩
    | .ok relations =>
      (store.explore (visited.insert start.id) (store.related start relations h)).after
        (visitCalls start relations)

/-- The walk from an object; one that is cancelled before it starts reports nothing. -/
def walk (store : Store) (start : Object) (cancelled : Bool) : Trace :=
  if cancelled then ⟨[], some .cancelled⟩ else store.walkFrom ∅ start

end Store

namespace Recording

/-- Notes one call. -/
def receive (recording : Recording) (grouping : Bool) : Call → Except GraphError Recording
  | .process object => recording.process object
  | .edge parent child => recording.addEdge grouping parent child

/-- Notes calls until one is refused. -/
def receiveAll (recording : Recording) (grouping : Bool) (calls : List Call) :
    Except GraphError Recording :=
  calls.foldlM (fun recording call => recording.receive grouping call) recording

/-- The recording of a walk. A refused call ends the walk before a later failure can. -/
def ofTrace (grouping : Bool) (trace : Trace) : Except VisitError Recording :=
  match receiveAll {} grouping trace.calls with
  | .error error => .error (.graph error)
  | .ok recording =>
    match trace.failure with
    | some error => .error error
    | none => .ok recording

end Recording

end ClusterGraph
