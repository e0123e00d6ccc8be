import Mathlib.Data.List.Induction
import ClusterGraph.Traversal

/-!
# What a recording holds

A recording that takes calls one after another, refused ones left out, holds exactly what the accepted
calls say:

* **`mem_processed_absorbAll`** — the processed identifiers are those of the processed objects.
* **`mem_targets_absorbAll`** — the recorded edges are the reported relations between objects of
  different identifiers, each as it was turned around for a pod of a group.
* **`mem_objects_absorbAll`** — an identifier has an object as soon as an object that was processed, or
  that stands at an end of a recorded relation, has it; and `exists_noted_of_objects` says that the
  object kept is one of these.

One call changes little, and `absorb_cases` says once what. Everything about runs follows by induction
on the calls.
-/

namespace ClusterGraph

namespace Call

/-- The objects that a call hands over. -/
def objects : Call → List Object
  | process object => [object]
  | edge parent child => [parent, child]

/-- Whether a recording takes a call: it refuses objects that are empty. -/
def IsAccepted (call : Call) : Prop :=
  ∀ object ∈ call.objects, object.isEmpty = false

instance (call : Call) : Decidable call.IsAccepted :=
  inferInstanceAs (Decidable (∀ object ∈ call.objects, object.isEmpty = false))

/-- The call has an object processed. -/
def Processes (call : Call) (object : Object) : Prop :=
  call.IsAccepted ∧ call = .process object

/-- The call reports a relation that is kept, with its ends in the order in which they are kept. -/
def Relates (grouping : Bool) (call : Call) (first second : Object) : Prop :=
  call.IsAccepted ∧ first.id ≠ second.id ∧
    ∃ parent child, call = .edge parent child ∧
      Recording.orient grouping parent child = (first, second)

/-- The call has an object noted: as processed, or at one end of a relation that is kept. -/
def Notes (grouping : Bool) (call : Call) (object : Object) : Prop :=
  call.Processes object ∨
    ∃ other, call.Relates grouping object other ∨ call.Relates grouping other object

theorem Relates.mem_objects {grouping : Bool} {call : Call} {first second : Object}
    (h : call.Relates grouping first second) : first ∈ call.objects ∧ second ∈ call.objects := by
  obtain ⟨_, _, parent, child, rfl, horient⟩ := h
  unfold Recording.orient at horient
  split at horient <;> cases horient <;> simp [objects]

theorem Processes.unique {call : Call} {a b : Object} (ha : call.Processes a)
    (hb : call.Processes b) : a = b := by
  obtain ⟨_, rfl⟩ := ha
  obtain ⟨_, hb⟩ := hb
  cases hb
  rfl

theorem Relates.unique {grouping : Bool} {call : Call} {a b c d : Object}
    (h : call.Relates grouping a b) (h' : call.Relates grouping c d) : a = c ∧ b = d := by
  obtain ⟨_, _, parent, child, rfl, ho⟩ := h
  obtain ⟨_, _, _, _, he, ho'⟩ := h'
  cases he
  rw [ho] at ho'
  cases ho'
  exact ⟨rfl, rfl⟩

theorem Processes.not_relates {grouping : Bool} {call : Call} {object first second : Object}
    (h : call.Processes object) : ¬ call.Relates grouping first second := by
  rintro ⟨_, _, parent, child, he, _⟩
  rw [h.2] at he
  cases he

theorem Notes.mem_objects {grouping : Bool} {call : Call} {object : Object}
    (h : call.Notes grouping object) : object ∈ call.objects := by
  rcases h with ⟨_, rfl⟩ | ⟨other, h | h⟩
  · simp [objects]
  · exact h.mem_objects.1
  · exact h.mem_objects.2

theorem Notes.isAccepted {grouping : Bool} {call : Call} {object : Object}
    (h : call.Notes grouping object) : call.IsAccepted := by
  rcases h with ⟨h, _⟩ | ⟨_, ⟨h, _⟩ | ⟨h, _⟩⟩ <;> exact h

end Call

namespace Recording

/-- The recording after a call; a refused call leaves it as it was. -/
def absorb (grouping : Bool) (recording : Recording) (call : Call) : Recording :=
  match recording.receive grouping call with
  | .ok next => next
  | .error _ => recording

/-- The recording of some calls, taken in their order. -/
def absorbAll (grouping : Bool) (calls : List Call) : Recording :=
  calls.foldl (absorb grouping) {}

theorem absorbAll_append (grouping : Bool) (calls more : List Call) :
    absorbAll grouping (calls ++ more) = more.foldl (absorb grouping) (absorbAll grouping calls) :=
  List.foldl_append

/-- The identifiers that recorded edges lead to from a given one. -/
def targets (recording : Recording) (source : String) : Keys :=
  recording.edges[source]?.getD ∅

/-! ## One call

A call is refused, or it does one of three things: nothing, note an object as processed, or relate two
objects. `absorb_cases` is the inversion that everything below starts from, so that no later proof opens
the recording itself. -/

theorem orient_cases (grouping : Bool) (parent child : Object) :
    orient grouping parent child = (parent, child) ∨
      orient grouping parent child = (child, parent) := by
  unfold orient
  split
  · exact Or.inr rfl
  · exact Or.inl rfl

theorem validate_eq_ok {object : Object} (h : object.isEmpty = false) : object.validate = .ok () := by
  simp [Object.validate, h]

theorem validate_eq_error {object : Object} (h : object.isEmpty = true) :
    ∃ error, object.validate = .error error := by
  simp [Object.validate, h]

theorem receive_of_not_isAccepted (grouping : Bool) (recording : Recording) {call : Call}
    (h : ¬ call.IsAccepted) : ∃ error, recording.receive grouping call = .error error := by
  cases call with
  | process object =>
    have he : object.isEmpty = true := by simpa [Call.IsAccepted, Call.objects] using h
    obtain ⟨error, hv⟩ := validate_eq_error he
    exact ⟨error, by simp only [receive, process, hv]; rfl⟩
  | edge parent child =>
    -- the parent is looked at first
    cases hp : parent.isEmpty with
    | true =>
      obtain ⟨error, hv⟩ := validate_eq_error hp
      exact ⟨error, by simp only [receive, addEdge, hv]; rfl⟩
    | false =>
      have hc : child.isEmpty = true := by simpa [Call.IsAccepted, Call.objects, hp] using h
      obtain ⟨error, hv⟩ := validate_eq_error hc
      exact ⟨error, by simp only [receive, addEdge, validate_eq_ok hp, hv]; rfl⟩

def note (recording : Recording) (object : Object) : Recording :=
  { recording with
    objects := recording.objects.insert object.id object
    processed := recording.processed.insert object.id }

def relate (recording : Recording) (first second : Object) : Recording :=
  { recording with
    objects := (recording.objects.insertAbsent first.id first).insertAbsent second.id second
    edges := recording.edges.insert first.id ((recording.targets first.id).insert second.id) }

theorem receive_process {grouping : Bool} {recording : Recording} {object : Object}
    (h : (Call.process object).IsAccepted) :
    recording.receive grouping (.process object) = .ok (recording.note object) := by
  have he : object.isEmpty = false := by simpa [Call.IsAccepted, Call.objects] using h
  simp only [receive, process, validate_eq_ok he]
  rfl

theorem receive_edge {grouping : Bool} {recording : Recording} {parent child first second : Object}
    (h : (Call.edge parent child).IsAccepted)
    (horient : orient grouping parent child = (first, second)) :
    recording.receive grouping (.edge parent child) =
      .ok (if first.id = second.id then recording else recording.relate first second) := by
  have he : parent.isEmpty = false ∧ child.isEmpty = false := by
    simpa [Call.IsAccepted, Call.objects] using h
  simp only [receive, addEdge, validate_eq_ok he.1, validate_eq_ok he.2, horient]
  by_cases hid : first.id = second.id
  · simp only [if_pos hid]; rfl
  · simp only [if_neg hid]; rfl

theorem receive_of_isAccepted (grouping : Bool) (recording : Recording) {call : Call}
    (h : call.IsAccepted) : ∃ next, recording.receive grouping call = .ok next := by
  cases call with
  | process object => exact ⟨_, receive_process h⟩
  | edge parent child => exact ⟨_, receive_edge h rfl⟩

/-- **What one call does.** It is without effect, has one object processed, or has one relation kept. -/
theorem absorb_cases (grouping : Bool) (recording : Recording) (call : Call) :
    (absorb grouping recording call = recording ∧ ∀ object, ¬ call.Notes grouping object) ∨
    (∃ object, call.Processes object ∧ absorb grouping recording call = recording.note object) ∨
    ∃ first second, call.Relates grouping first second ∧
      absorb grouping recording call = recording.relate first second := by
  -- refused or taken; then by the two kinds of calls
  by_cases ha : call.IsAccepted
  · cases call with
    | process object =>
      refine Or.inr (Or.inl ⟨object, ⟨ha, rfl⟩, ?_⟩)
      simp only [absorb, receive_process ha]
    | edge parent child =>
      rcases horient : orient grouping parent child with ⟨first, second⟩
      by_cases hid : first.id = second.id
      · -- a relation of an object to itself is accepted and ignored
        refine Or.inl ⟨?_, ?_⟩
        · simp only [absorb, receive_edge ha horient, if_pos hid]
        · rintro object (⟨_, h⟩ | ⟨other, ⟨_, hne, _, _, h, ho⟩ | ⟨_, hne, _, _, h, ho⟩⟩) <;> cases h <;>
            rw [horient] at ho <;> cases ho
          · exact hne hid
          · exact hne hid
      · refine Or.inr (Or.inr ⟨first, second, ⟨ha, hid, parent, child, rfl, horient⟩, ?_⟩)
        simp only [absorb, receive_edge ha horient, if_neg hid]
  · obtain ⟨error, he⟩ := receive_of_not_isAccepted grouping recording ha
    refine Or.inl ⟨?_, fun object hn => ha hn.isAccepted⟩
    simp only [absorb, he]

/-! ## What one call writes

For each part of a recording one equivalence: what is in it after a call was in it before, or the call has
put it there. The right side does not mention the recording, and so it can be collected over many calls. -/

theorem mem_processed_absorb (grouping : Bool) (recording : Recording) (call : Call) (id : String) :
    id ∈ (absorb grouping recording call).processed ↔
      id ∈ recording.processed ∨ ∃ object, call.Processes object ∧ object.id = id := by
  rcases absorb_cases grouping recording call with
    ⟨h, hn⟩ | ⟨object, hp, h⟩ | ⟨first, second, hr, h⟩ <;> rw [h]
  · have hnone : ¬ ∃ object, call.Processes object ∧ object.id = id :=
      fun ⟨object, hp, _⟩ => hn object (Or.inl hp)
    simp [hnone]
  · -- a call has one object processed at most
    have hiff : (∃ o, call.Processes o ∧ o.id = id) ↔ object.id = id :=
      ⟨fun ⟨_, ho, hid⟩ => hp.unique ho ▸ hid, fun hid => ⟨object, hp, hid⟩⟩
    rw [hiff]
    simp [note, or_comm]
  · have hnone : ¬ ∃ object, call.Processes object ∧ object.id = id :=
      fun ⟨_, hp, _⟩ => hp.not_relates hr
    simp [hnone, relate]

theorem targets_relate (recording : Recording) (first second : Object) (source : String) :
    (recording.relate first second).targets source =
      if first.id = source then (recording.targets source).insert second.id
      else recording.targets source := by
  unfold relate targets
  rw [Dict.getElem?_insert]
  by_cases h : first.id = source
  · subst h; simp
  · simp [h]

theorem mem_targets_absorb (grouping : Bool) (recording : Recording) (call : Call)
    (source target : String) :
    target ∈ (absorb grouping recording call).targets source ↔
      target ∈ recording.targets source ∨
        ∃ first second, call.Relates grouping first second ∧
          first.id = source ∧ second.id = target := by
  rcases absorb_cases grouping recording call with
    ⟨h, hn⟩ | ⟨object, hp, h⟩ | ⟨first, second, hr, h⟩ <;> rw [h]
  · have hnone : ¬ ∃ first second, call.Relates grouping first second ∧
        first.id = source ∧ second.id = target :=
      fun ⟨first, second, hr, _⟩ => hn first (Or.inr ⟨second, Or.inl hr⟩)
    simp [hnone]
  · have hnone : ¬ ∃ first second, call.Relates grouping first second ∧
        first.id = source ∧ second.id = target := fun ⟨_, _, hr, _⟩ => hp.not_relates hr
    simp [hnone, note, targets]
  · -- a call relates one pair of objects at most
    have hiff : (∃ a b, call.Relates grouping a b ∧ a.id = source ∧ b.id = target) ↔
        first.id = source ∧ second.id = target := by
      constructor
      · rintro ⟨a, b, hab, hs, ht⟩
        obtain ⟨rfl, rfl⟩ := hr.unique hab
        exact ⟨hs, ht⟩
      · exact fun ⟨hs, ht⟩ => ⟨first, second, hr, hs, ht⟩
    rw [hiff, targets_relate]
    by_cases hs : first.id = source <;> simp [hs, or_comm]

theorem getElem?_objects_relate (recording : Recording) (first second : Object) (id : String) :
    (recording.relate first second).objects[id]? =
      (recording.objects[id]?.or (if first.id = id then some first else none)).or
        (if second.id = id then some second else none) := by
  rw [relate, Dict.getElem?_insertAbsent, Dict.getElem?_insertAbsent]

theorem mem_objects_relate {recording : Recording} {first second : Object} {id : String} :
    id ∈ (recording.relate first second).objects ↔
      id ∈ recording.objects ∨ first.id = id ∨ second.id = id := by
  simp only [Std.ExtTreeMap.mem_iff_isSome_getElem?, getElem?_objects_relate, Option.isSome_or,
    Bool.or_eq_true, or_assoc]
  by_cases hf : first.id = id <;> by_cases hs : second.id = id <;> simp [hf, hs]

theorem mem_objects_note {recording : Recording} {object : Object} {id : String} :
    id ∈ (recording.note object).objects ↔ id ∈ recording.objects ∨ object.id = id := by
  simp [note, or_comm]

theorem objects_absorb {grouping : Bool} {recording : Recording} {call : Call} {id : String}
    {object : Object} (h : (absorb grouping recording call).objects[id]? = some object) :
    recording.objects[id]? = some object ∨ call.Notes grouping object ∧ object.id = id := by
  rcases absorb_cases grouping recording call with
    ⟨heq, _⟩ | ⟨noted, hp, heq⟩ | ⟨first, second, hr, heq⟩ <;> rw [heq] at h
  · exact Or.inl h
  · rw [note, Dict.getElem?_insert] at h
    split at h
    · cases h
      exact Or.inr ⟨Or.inl hp, ‹_›⟩
    · exact Or.inl h
  · -- an end of a relation is kept only where nothing was kept before
    rw [getElem?_objects_relate] at h
    cases hold : recording.objects[id]? with
    | some kept => rw [hold] at h; exact Or.inl h
    | none =>
      rw [hold, Option.none_or] at h
      by_cases hf : first.id = id
      · rw [if_pos hf, Option.some_or] at h
        cases h
        exact Or.inr ⟨Or.inr ⟨second, Or.inl hr⟩, hf⟩
      · rw [if_neg hf, Option.none_or] at h
        split at h
        · cases h
          exact Or.inr ⟨Or.inr ⟨first, Or.inr hr⟩, ‹_›⟩
        · cases h

theorem mem_objects_absorb (grouping : Bool) (recording : Recording) (call : Call) (id : String) :
    id ∈ (absorb grouping recording call).objects ↔
      id ∈ recording.objects ∨ ∃ object, call.Notes grouping object ∧ object.id = id := by
  constructor
  · intro h
    obtain ⟨object, ho⟩ := Dict.mem_iff_exists.1 h
    rcases objects_absorb ho with ho | hn
    · exact Or.inl (Dict.mem_iff_exists.2 ⟨object, ho⟩)
    · exact Or.inr ⟨object, hn⟩
  · rcases absorb_cases grouping recording call with
      ⟨heq, hn⟩ | ⟨noted, hp, heq⟩ | ⟨first, second, hr, heq⟩ <;> rw [heq]
    · rintro (h | ⟨object, h, _⟩)
      · exact h
      · exact absurd h (hn object)
    · rw [mem_objects_note]
      rintro (h | ⟨object, h | ⟨other, h | h⟩, rfl⟩)
      · exact Or.inl h
      · exact Or.inr (by rw [hp.unique h])
      · exact absurd h hp.not_relates
      · exact absurd h hp.not_relates
    · rw [mem_objects_relate]
      rintro (h | ⟨object, h | ⟨other, h | h⟩, rfl⟩)
      · exact Or.inl h
      · exact absurd hr h.not_relates
      · exact Or.inr (Or.inl (by rw [(hr.unique h).1]))
      · exact Or.inr (Or.inr (by rw [(hr.unique h).2]))

/-! ## What a run of calls writes

`foldl_iff` turns an equivalence about one step into one about a fold, and the three statements about runs
are instances of it. Only which object is kept under an identifier takes an induction of its own, since
calls may replace it. -/

/-- A property that each step of a fold keeps, and that a step can bring about, holds in the end if it
held at first or if some step brought it about. -/
theorem foldl_iff {σ α : Type} {step : σ → α → σ} (holds : σ → Prop) {brings : α → Prop}
    (hstep : ∀ state item, holds (step state item) ↔ holds state ∨ brings item)
    (items : List α) (state : σ) :
    holds (items.foldl step state) ↔ holds state ∨ ∃ item ∈ items, brings item := by
  induction items generalizing state with
  | nil => simp
  | cons item rest ih =>
    rw [List.foldl_cons, ih, hstep]
    simp [or_assoc]

/-- The processed identifiers are those of the objects that the calls have processed. -/
theorem mem_processed_absorbAll {grouping : Bool} {calls : List Call} {id : String} :
    id ∈ (absorbAll grouping calls).processed ↔
      ∃ call ∈ calls, ∃ object, call.Processes object ∧ object.id = id := by
  have h := foldl_iff (fun r : Recording => id ∈ r.processed)
    (fun r call => mem_processed_absorb grouping r call id) calls {}
  simpa [absorbAll] using h

/-- The recorded edges are the relations that the calls report between different objects. -/
theorem mem_targets_absorbAll {grouping : Bool} {calls : List Call} {source target : String} :
    target ∈ (absorbAll grouping calls).targets source ↔
      ∃ call ∈ calls, ∃ first second, call.Relates grouping first second ∧
        first.id = source ∧ second.id = target := by
  have h := foldl_iff (fun r : Recording => target ∈ r.targets source)
    (fun r call => mem_targets_absorb grouping r call source target) calls {}
  simpa [absorbAll, targets] using h

/-- An object is kept under each identifier of an object that the calls have noted. -/
theorem mem_objects_absorbAll {grouping : Bool} {calls : List Call} {id : String} :
    id ∈ (absorbAll grouping calls).objects ↔
      ∃ call ∈ calls, ∃ object, call.Notes grouping object ∧ object.id = id := by
  have h := foldl_iff (fun r : Recording => id ∈ r.objects)
    (fun r call => mem_objects_absorb grouping r call id) calls {}
  simpa [absorbAll] using h

/-- The object kept under an identifier has it, and one of the calls has this object noted. -/
theorem exists_noted_of_objects {grouping : Bool} {calls : List Call} {id : String}
    {object : Object} (h : (absorbAll grouping calls).objects[id]? = some object) :
    object.id = id ∧ ∃ call ∈ calls, call.Notes grouping object := by
  -- the induction is on the calls from the last one back, since a later call may replace the object
  induction calls using List.reverseRecOn with
  | nil => simp [absorbAll] at h
  | append_singleton calls call ih =>
    rw [absorbAll, List.foldl_append] at h
    rcases objects_absorb h with h | ⟨hn, hid⟩
    · obtain ⟨hid, earlier, hm, hn⟩ := ih h
      exact ⟨hid, earlier, List.mem_append_left _ hm, hn⟩
    · exact ⟨hid, call, by simp, hn⟩

/-! ## Reachable recordings

A reset starts again from the empty recording. `WellFormed` is the invariant that the other modules rely
on, kept by noting, by relating, and so by every call. -/

/-- The recordings that calls and resets lead to. -/
inductive Reachable (grouping : Bool) : Recording → Prop where
  | empty : Reachable grouping {}
  | absorb {recording : Recording} (h : Reachable grouping recording) (call : Call) :
      Reachable grouping (recording.absorb grouping call)
  | reset {recording : Recording} (h : Reachable grouping recording) : Reachable grouping {}

/-- What every reachable recording satisfies. -/
structure WellFormed (recording : Recording) : Prop where
  /-- Objects are kept under their own identifiers. -/
  id_eq : ∀ {id : String} {object : Object}, recording.objects[id]? = some object → object.id = id
  /-- Processed identifiers have an object. -/
  processed : ∀ {id : String}, id ∈ recording.processed → id ∈ recording.objects
  /-- Both ends of an edge have an object, and they differ. -/
  ends : ∀ {source target : String}, target ∈ recording.targets source →
    source ∈ recording.objects ∧ target ∈ recording.objects ∧ source ≠ target
  /-- No source is without targets. -/
  sources : ∀ {source : String} {keys : Keys}, recording.edges[source]? = some keys →
    ∃ target, target ∈ keys

theorem wellFormed_empty : WellFormed {} where
  id_eq h := by simp at h
  processed h := by simp at h
  ends h := by simp [targets] at h
  sources h := by simp at h

theorem WellFormed.note {recording : Recording} (h : recording.WellFormed) (object : Object) :
    (recording.note object).WellFormed where
  id_eq {id kept} hk := by
    rw [Recording.note, Dict.getElem?_insert] at hk
    split at hk
    · cases hk; assumption
    · exact h.id_eq hk
  processed {id} hp := by
    rw [mem_objects_note]
    have hp : object.id = id ∨ id ∈ recording.processed := by simpa [Recording.note] using hp
    exact hp.elim Or.inr fun hp => Or.inl (h.processed hp)
  ends ht := by
    obtain ⟨hs, ht, hne⟩ := h.ends ht
    exact ⟨mem_objects_note.2 (Or.inl hs), mem_objects_note.2 (Or.inl ht), hne⟩
  sources hk := h.sources hk

theorem WellFormed.relate {recording : Recording} (h : recording.WellFormed) {first second : Object}
    (hne : first.id ≠ second.id) : (recording.relate first second).WellFormed where
  id_eq {id kept} hk := by
    rw [getElem?_objects_relate] at hk
    rcases Option.or_eq_some_iff.1 hk with hk | ⟨-, hk⟩
    · rcases Option.or_eq_some_iff.1 hk with hk | ⟨-, hk⟩
      · exact h.id_eq hk
      · split at hk
        · cases hk; assumption
        · cases hk
    · split at hk
      · cases hk; assumption
      · cases hk
  processed hp := mem_objects_relate.2 (Or.inl (h.processed hp))
  ends {source target} ht := by
    -- a new target stands below the first end; every other one was there before
    rw [targets_relate] at ht
    rw [mem_objects_relate, mem_objects_relate]
    split at ht
    · rename_i hs
      subst hs
      rcases Std.ExtTreeSet.mem_insert.1 ht with heq | ht
      · have heq : second.id = target := Std.LawfulEqCmp.compare_eq_iff_eq.1 heq
        subst heq
        exact ⟨Or.inr (Or.inl rfl), Or.inr (Or.inr rfl), hne⟩
      · obtain ⟨hs, ht, hst⟩ := h.ends ht
        exact ⟨Or.inl hs, Or.inl ht, hst⟩
    · obtain ⟨hs, ht, hst⟩ := h.ends ht
      exact ⟨Or.inl hs, Or.inl ht, hst⟩
  sources {source keys} hk := by
    rw [Recording.relate, Dict.getElem?_insert] at hk
    split at hk
    · cases hk
      exact ⟨second.id, by simp⟩
    · exact h.sources hk

theorem WellFormed.absorb {grouping : Bool} {recording : Recording} (h : recording.WellFormed)
    (call : Call) : (recording.absorb grouping call).WellFormed := by
  rcases absorb_cases grouping recording call with
    ⟨heq, _⟩ | ⟨object, _, heq⟩ | ⟨first, second, hr, heq⟩ <;> rw [heq]
  · exact h
  · exact h.note object
  · exact h.relate hr.2.1

theorem Reachable.wellFormed {grouping : Bool} {recording : Recording}
    (h : Reachable grouping recording) : recording.WellFormed := by
  induction h with
  | empty => exact wellFormed_empty
  | absorb _ call ih => exact ih.absorb call
  | reset => exact wellFormed_empty

theorem reachable_absorbAll (grouping : Bool) (calls : List Call) :
    Reachable grouping (absorbAll grouping calls) := by
  induction calls using List.reverseRecOn with
  | nil => exact .empty
  | append_singleton calls call ih =>
    rw [absorbAll, List.foldl_append]
    exact ih.absorb call

end Recording

end ClusterGraph
