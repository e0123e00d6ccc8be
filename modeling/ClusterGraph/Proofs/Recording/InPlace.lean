import ClusterGraph.Proofs.Recording.Edges
import ClusterGraph.Proofs.Sample

/-!
# Recordings that are worked on in place

A recording is shared by everyone who calls, and each write to one of its parts is made as soon as it is
due. So two things have to be shown: that a refused call has written nothing before it is refused, and
that the writes of a call leave no part of the recording at odds with another one.

* **`InPlace.after_eq`** — a call that works in place leaves the recording that it would have made anew,
  and a refused one leaves it as it was.
* **`map_fst_processedObjects`**, **`map_id_relations`** — whoever goes through the processed identifiers
  or the recorded edges of a well-formed recording finds an object for every one of them.
* **`no_object_missing`** — both, for each recording that calls and resets lead to.
-/

namespace ClusterGraph

/-! ## Writing one part after another

A call written as a sequence of changes to a shared state, with its checks among them. The type allows for
a refusal that comes after a write, which then stays; `after_eq` says that there is none, because a call
makes all its checks first. -/

/-- Work on a recording in place: what was written before a refusal stays written. -/
abbrev InPlace := ExceptT GraphError (StateM Recording)

namespace InPlace

def check (object : Object) : InPlace Unit :=
  ExceptT.mk (pure object.validate)

/-- One call: the objects are checked, and then the parts of the recording are written one by one. -/
def take (grouping : Bool) : Call → InPlace Unit
  | .process object => do
    check object
    modify fun recording =>
      { recording with objects := recording.objects.insert object.id object }
    modify fun recording =>
      { recording with processed := recording.processed.insert object.id }
  | .edge parent child => do
    check parent
    check child
    let (first, second) := Recording.orient grouping parent child
    if first.id = second.id then return
    modify fun recording =>
      { recording with objects := recording.objects.insertAbsent first.id first }
    modify fun recording =>
      { recording with objects := recording.objects.insertAbsent second.id second }
    modify fun recording =>
      { recording with
        edges := recording.edges.insert first.id
          ((recording.edges[first.id]?.getD ∅).insert second.id) }

/-- The answer to a call, with the recording that it leaves behind. -/
def after (recording : Recording) (grouping : Bool) (call : Call) :
    Except GraphError Unit × Recording :=
  (take grouping call).run.run recording

/-- What is answered to every call that hands over an empty object. -/
def refusal : GraphError :=
  .invalidObject "object has no type and no name"

theorem run_check_bind (recording : Recording) (object : Object) (rest : Unit → InPlace Unit) :
    (check object >>= rest).run.run recording =
      if object.isEmpty then (.error refusal, recording) else (rest ()).run.run recording := by
  unfold check Object.validate
  cases object.isEmpty <;> rfl

theorem after_process (recording : Recording) (grouping : Bool) (object : Object) :
    after recording grouping (.process object) =
      if object.isEmpty then (.error refusal, recording) else (.ok (), recording.note object) := by
  unfold after take
  rw [run_check_bind]
  rfl

theorem after_edge (recording : Recording) {grouping : Bool} {parent child first second : Object}
    (horient : Recording.orient grouping parent child = (first, second)) :
    after recording grouping (.edge parent child) =
      if parent.isEmpty then (.error refusal, recording)
      else if child.isEmpty then (.error refusal, recording)
      else (.ok (), if first.id = second.id then recording else recording.relate first second) := by
  unfold after take
  rw [run_check_bind, run_check_bind, horient]
  dsimp only
  -- the early end of a relation of an object to itself comes before all writes
  by_cases hid : first.id = second.id
  · simp only [if_pos hid]
    rfl
  · simp only [if_neg hid]
    rfl

/-- **Work in place ends where a call that makes a new recording does, and a refused call has written
nothing.** -/
theorem after_eq (recording : Recording) (grouping : Bool) (call : Call) :
    after recording grouping call =
      if call.IsAccepted then (.ok (), recording.absorb grouping call)
      else (.error refusal, recording) := by
  by_cases ha : call.IsAccepted
  · rw [if_pos ha]
    cases call with
    | process object =>
      have hobject : object.isEmpty = false := ha object (by simp [Call.objects])
      rw [after_process, hobject, Recording.absorb, Recording.receive_process ha]
      rfl
    | edge parent child =>
      have hparent : parent.isEmpty = false := ha parent (by simp [Call.objects])
      have hchild : child.isEmpty = false := ha child (by simp [Call.objects])
      rw [after_edge recording rfl, hparent, hchild, Recording.absorb, Recording.receive_edge ha rfl]
      rfl
  · -- for a relation there are two checks that may refuse it, and none of them follows a write
    rw [if_neg ha]
    cases call with
    | process object =>
      have hobject : object.isEmpty = true := by simpa [Call.IsAccepted, Call.objects] using ha
      rw [after_process, if_pos hobject]
    | edge parent child =>
      rw [after_edge recording rfl]
      cases hparent : parent.isEmpty with
      | true => rfl
      | false =>
        -- the first object has passed its check, so that it is the second one that is refused
        have hchild : child.isEmpty = true := by
          simpa [Call.IsAccepted, Call.objects, hparent] using ha
        rw [hchild]
        rfl

end InPlace

namespace Recording

variable {grouping : Bool} {recording : Recording}

/-! ## Nothing is skipped

Processed identifiers and recorded edges are gone through with a lookup of the objects, and what has none
is passed over. In a well-formed recording the lookup always succeeds, so that the lists are as long as
the parts they come from. -/

/-- Every processed identifier is gone through, with an object. -/
theorem map_fst_processedObjects (hw : recording.WellFormed) :
    recording.processedObjects.map Prod.fst = recording.processed.toList := by
  unfold processedObjects
  rw [List.map_filterMap]
  calc recording.processed.toList.filterMap
        (fun id => (recording.objects[id]?.map (id, ·)).map Prod.fst)
      = recording.processed.toList.filterMap some := by
        -- a processed identifier has an object by the invariant
        refine List.filterMap_congr fun id hid => ?_
        obtain ⟨object, ho⟩ :=
          Dict.mem_iff_exists.1 (hw.processed (Std.ExtTreeSet.mem_toList.1 hid))
        rw [ho]
        rfl
    _ = recording.processed.toList := List.filterMap_some

/-- The recorded edges, ascending, as the identifiers of their ends. -/
def edgeEnds (recording : Recording) : List (String × String) :=
  recording.edges.toList.flatMap fun (source, targets) => targets.toList.map (source, ·)

/-- Every recorded edge is gone through, with the objects that have the identifiers of its ends. -/
theorem map_id_relations (hw : recording.WellFormed) :
    (recording.relations.map fun (parent, child) => (parent.id, child.id)) = recording.edgeEnds := by
  unfold relations edgeEnds
  rw [List.map_flatMap]
  refine List.flatMap_congr fun ⟨source, targets⟩ hm => ?_
  have htargets : recording.targets source = targets := by
    rw [Recording.targets, Std.ExtTreeMap.mem_toList_iff_getElem?_eq_some.1 hm]
    rfl
  -- the ends of each edge of this source have objects, and these are kept under their own identifiers
  have hends : ∀ target ∈ targets.toList, source ∈ recording.objects ∧ target ∈ recording.objects := by
    intro target ht
    rw [Std.ExtTreeSet.mem_toList, ← htargets] at ht
    exact ⟨(hw.ends ht).1, (hw.ends ht).2.1⟩
  obtain ⟨first, hfirst⟩ := hw.sources (Std.ExtTreeMap.mem_toList_iff_getElem?_eq_some.1 hm)
  obtain ⟨parent, hp⟩ :=
    Dict.mem_iff_exists.1 (hends first (Std.ExtTreeSet.mem_toList.2 hfirst)).1
  dsimp only
  rw [hp]
  dsimp only
  rw [List.map_filterMap, ← List.filterMap_eq_map]
  refine List.filterMap_congr fun target ht => ?_
  obtain ⟨child, hc⟩ := Dict.mem_iff_exists.1 (hends target ht).2
  rw [hc]
  show some (parent.id, child.id) = some (source, target)
  rw [hw.id_eq hp, hw.id_eq hc]

/-- **In each recording that calls and resets lead to, no object is missing.**

* An object is kept under its own identifier.
* There is an object for each processed identifier and for both ends of each edge; these ends differ,
  and no source is without targets.
* So neither the processed identifiers nor the edges are thinned out when their objects are looked up.
* A call that works in place is refused exactly if it hands over an empty object, and then leaves the
  recording as it was; any other one leaves the recording that comes next. -/
theorem no_object_missing (h : Reachable grouping recording) :
    (∀ id (object : Object), recording.objects[id]? = some object → object.id = id) ∧
    (∀ id ∈ recording.processed, id ∈ recording.objects) ∧
    (∀ source targets, recording.edges[source]? = some targets →
      source ∈ recording.objects ∧ (∃ target, target ∈ targets) ∧
        ∀ target ∈ targets, target ∈ recording.objects ∧ source ≠ target) ∧
    recording.processedObjects.map Prod.fst = recording.processed.toList ∧
    (recording.relations.map fun (parent, child) => (parent.id, child.id)) = recording.edgeEnds ∧
    ∀ call, InPlace.after recording grouping call =
      if call.IsAccepted then (.ok (), recording.absorb grouping call)
      else (.error (.invalidObject "object has no type and no name"), recording) := by
  have hw : recording.WellFormed := h.wellFormed
  refine ⟨fun _ _ => hw.id_eq, fun _ => hw.processed, fun source targets hs => ?_,
    map_fst_processedObjects hw, map_id_relations hw, InPlace.after_eq recording grouping⟩
  have hends : ∀ target ∈ targets,
      source ∈ recording.objects ∧ target ∈ recording.objects ∧ source ≠ target := by
    intro target ht
    refine hw.ends ?_
    rw [Recording.targets, hs]
    exact ht
  -- some target there is, and so the source has an object even where none of the targets is asked for
  obtain ⟨first, hfirst⟩ := hw.sources hs
  exact ⟨(hends first hfirst).1, ⟨first, hfirst⟩, fun target ht => (hends target ht).2⟩

/-- A pod of a group reports its controller before anything is processed, and then itself; the last call
is refused for the second of its objects. -/
theorem no_object_missing_of_refused :
    let calls := [.edge (Sample.pod "p1") Sample.replicaSet, .edge (Sample.pod "p1") (Sample.pod "p1"),
      .process (Sample.pod "p1")]
    let recording := absorbAll true calls
    let refused := Call.edge Sample.service Sample.nothing
    Reachable true recording ∧
      recording.processedObjects.map Prod.fst = ["p1"] ∧
      (recording.relations.map fun (parent, child) => (parent.id, child.id)) = [("rs", "p1")] ∧
      (InPlace.after recording true refused).2 = recording := by
  intro calls recording refused
  have h : Reachable true recording := reachable_absorbAll true calls
  obtain ⟨-, -, -, hprocessed, hrelations, hcalls⟩ := no_object_missing h
  have hrefused : ¬ refused.IsAccepted := by decide
  refine ⟨h, ?_, ?_, ?_⟩
  · rw [hprocessed]
    decide +kernel
  · rw [hrelations]
    decide +kernel
  · rw [hcalls, if_neg hrefused]

end Recording

end ClusterGraph
