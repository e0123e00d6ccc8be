import ClusterGraph.Fallible
import ClusterGraph.Store.Manifest

/-!
# What a manifest loads

A manifest may give its objects one by one, packed into lists, and with empty documents in between. What
is loaded is the same, and each object comes once and in order.

* **`objectsFrom_eq_ok_iff`** — a stream loads exactly if all that it describes are objects, and then
  these are what it loads.
* **`Repacked.unpacks_iff`** — packing documents into a list, and adding empty documents, does not change
  what a stream describes.
* **`objectsFrom_eq_invalidObject_iff`** — the first description that is no object is reported under the
  number of its document, for which all documents before it count.
* **`manifest_loads_each_once`** — all of this for a whole manifest.
-/

namespace ClusterGraph

open Json (Mismatch)

/-- Its own namespace stays with an object; one without namespace gets the default one. -/
theorem Object.withDefaultNamespace_eq (defaultName : Option String) (object : Object) :
    object.withDefaultNamespace defaultName =
      { object with
        metadata :=
          { object.metadata with namespaceName := object.namespaceName.or defaultName } } := by
  obtain ⟨type, metadata, data⟩ := object
  obtain ⟨name, generateName, namespaceName, uid, labels, owners⟩ := metadata
  cases namespaceName <;> rfl

namespace Store

/-! ## What a stream describes

`Unpacks` says it without reference to how documents are gone through. It is a function of the stream,
defined unless some document cannot be read, and takes streams in a row to descriptions in a row. -/

/-- A document of kind `List` with the given items. -/
def IsListOf (document : Json) (items : List Json) : Prop :=
  document.get? "kind" = some (.str "List") ∧ document.get? "items" = some (.arr items)

/-- What the documents of a stream describe, in order: the items of a list, and any other value itself. -/
inductive Unpacks : List Yaml.Document → List Json → Prop where
  | nil : Unpacks [] []
  | empty {rest : List Yaml.Document} {items : List Json} (h : Unpacks rest items) :
      Unpacks (.empty :: rest) items
  | single {document : Json} {rest : List Yaml.Document} {items : List Json}
      (hd : ¬ ∃ own, IsListOf document own) (h : Unpacks rest items) :
      Unpacks (.value document :: rest) (document :: items)
  | list {document : Json} {own : List Json} {rest : List Yaml.Document} {items : List Json}
      (hd : IsListOf document own) (h : Unpacks rest items) :
      Unpacks (.value document :: rest) (own ++ items)

theorem listItems?_eq_some_iff {document : Json} {items : List Json} :
    listItems? document = some items ↔ IsListOf document items := by
  unfold listItems? IsListOf
  constructor
  · intro h
    split at h
    · rename_i own hitems hkind
      cases h
      exact ⟨hkind, hitems⟩
    · cases h
  · rintro ⟨hkind, hitems⟩
    rw [hkind, hitems]
    rfl

theorem descriptions_of_isListOf {document : Json} {items : List Json} (h : IsListOf document items) :
    descriptions document = items := by
  rw [descriptions, listItems?_eq_some_iff.2 h]
  rfl

theorem descriptions_of_not_isListOf {document : Json} (h : ¬ ∃ own, IsListOf document own) :
    descriptions document = [document] := by
  -- a document of kind `List` whose items are no array counts as an object itself
  have hnone : listItems? document = none := by
    rw [Option.eq_none_iff_forall_ne_some]
    exact fun own hown => h ⟨own, listItems?_eq_some_iff.1 hown⟩
  rw [descriptions, hnone]
  rfl

theorem unpacks_value_iff {document : Json} {rest : List Yaml.Document} {items : List Json} :
    Unpacks (.value document :: rest) items ↔
      ∃ others, items = descriptions document ++ others ∧ Unpacks rest others := by
  constructor
  · intro h
    cases h with
    | single hd h => exact ⟨_, by rw [descriptions_of_not_isListOf hd]; rfl, h⟩
    | list hd h => exact ⟨_, by rw [descriptions_of_isListOf hd], h⟩
  · rintro ⟨others, rfl, h⟩
    by_cases hd : ∃ own, IsListOf document own
    · obtain ⟨own, hown⟩ := hd
      rw [descriptions_of_isListOf hown]
      exact .list hown h
    · rw [descriptions_of_not_isListOf hd]
      exact .single hd h

theorem unpacks_empty_iff {rest : List Yaml.Document} {items : List Json} :
    Unpacks (.empty :: rest) items ↔ Unpacks rest items := by
  constructor
  · intro h
    cases h with
    | empty h => exact h
  · exact .empty

theorem unpacks_nil_iff {items : List Json} : Unpacks [] items ↔ items = [] := by
  constructor
  · intro h
    cases h
    rfl
  · rintro rfl
    exact .nil

theorem not_unpacks_unreadable {rest : List Yaml.Document} {items : List Json} :
    ¬ Unpacks (.unreadable :: rest) items := nofun

theorem Unpacks.unique {documents : List Yaml.Document} {items others : List Json}
    (h : Unpacks documents items) (h' : Unpacks documents others) : items = others := by
  -- the form of a document decides by which rule it is unpacked
  induction documents generalizing items others with
  | nil => rw [unpacks_nil_iff.1 h, unpacks_nil_iff.1 h']
  | cons document rest ih =>
    cases document with
    | unreadable => exact absurd h not_unpacks_unreadable
    | empty => exact ih (unpacks_empty_iff.1 h) (unpacks_empty_iff.1 h')
    | value document =>
      obtain ⟨more, rfl, hmore⟩ := unpacks_value_iff.1 h
      obtain ⟨more', rfl, hmore'⟩ := unpacks_value_iff.1 h'
      rw [ih hmore hmore']

theorem unpacks_append_iff {front back : List Yaml.Document} {items : List Json} :
    Unpacks (front ++ back) items ↔
      ∃ first second, items = first ++ second ∧ Unpacks front first ∧ Unpacks back second := by
  -- induction on the first part: each of its documents describes the beginning of what is left
  induction front generalizing items with
  | nil =>
    simp only [List.nil_append, unpacks_nil_iff]
    constructor
    · exact fun h => ⟨[], items, rfl, rfl, h⟩
    · rintro ⟨_, _, rfl, rfl, h⟩
      exact h
  | cons document front ih =>
    rw [List.cons_append]
    cases document with
    | unreadable => simp [not_unpacks_unreadable]
    | empty => simp only [unpacks_empty_iff, ih]
    | value document =>
      simp only [unpacks_value_iff, ih]
      constructor
      · rintro ⟨_, rfl, first, second, rfl, hfirst, hsecond⟩
        exact ⟨_, second, (List.append_assoc ..).symm, ⟨first, rfl, hfirst⟩, hsecond⟩
      · rintro ⟨_, second, rfl, ⟨first, rfl, hfirst⟩, hsecond⟩
        exact ⟨first ++ second, List.append_assoc .., first, second, rfl, hfirst, hsecond⟩

/-! ## What a stream loads

Loading goes through the documents with a number that is counted up. The number matters for faults only,
so that the statement about success holds for every start. -/

/-- Objects are read from all descriptions first and placed in their namespaces then. -/
theorem objectsOf_eq (defaultName : Option String) (index : Nat) (document : Json) :
    objectsOf defaultName index document =
      (((descriptions document).mapM Object.ofJson).mapError (.invalidObject index)).map
        (List.map (·.withDefaultNamespace defaultName)) := by
  unfold objectsOf
  induction descriptions document with
  | nil => rfl
  | cons description rest ih =>
    rw [List.mapM_cons, List.mapM_cons, ih]
    cases Object.ofJson description with
    | error fault => rfl
    | ok object => cases rest.mapM Object.ofJson <;> rfl

theorem objectsOf_eq_ok_iff {defaultName : Option String} {index : Nat} {document : Json}
    {objects : List Object} :
    objectsOf defaultName index document = .ok objects ↔
      ∃ own, (descriptions document).mapM Object.ofJson = .ok own ∧
        objects = own.map (·.withDefaultNamespace defaultName) := by
  rw [objectsOf_eq]
  cases (descriptions document).mapM Object.ofJson with
  | error fault => exact ⟨nofun, nofun⟩
  | ok own =>
    constructor
    · intro h
      cases h
      exact ⟨own, rfl, rfl⟩
    · rintro ⟨_, h, rfl⟩
      cases h
      rfl

theorem objectsOf_eq_error_iff {defaultName : Option String} {index : Nat} {document : Json}
    {error : StoreError} :
    objectsOf defaultName index document = .error error ↔
      ∃ fault, (descriptions document).mapM Object.ofJson = .error fault ∧
        error = .invalidObject index fault := by
  rw [objectsOf_eq]
  cases (descriptions document).mapM Object.ofJson with
  | error fault =>
    constructor
    · intro h
      cases h
      exact ⟨fault, rfl, rfl⟩
    · rintro ⟨_, h, rfl⟩
      cases h
      rfl
  | ok own => exact ⟨nofun, nofun⟩

/-- **A stream loads exactly if all that it describes are objects**, and then it loads each of these once
and in order. -/
theorem objectsFrom_eq_ok_iff {defaultName : Option String} {start : Nat}
    {documents : List Yaml.Document} {objects : List Object} :
    objectsFrom defaultName start documents = .ok objects ↔
      ∃ items own, Unpacks documents items ∧ items.mapM Object.ofJson = .ok own ∧
        objects = own.map (·.withDefaultNamespace defaultName) := by
  -- induction on the documents, from any number on, since each one is read at the next number
  induction documents generalizing start objects with
  | nil =>
    simp only [objectsFrom, unpacks_nil_iff]
    constructor
    · intro h
      cases h
      exact ⟨[], [], rfl, rfl, rfl⟩
    · rintro ⟨_, _, rfl, h, rfl⟩
      cases h
      rfl
  | cons document rest ih =>
    cases document with
    | unreadable =>
      simp only [objectsFrom, not_unpacks_unreadable]
      exact ⟨nofun, nofun⟩
    | empty => simp only [objectsFrom, unpacks_empty_iff, ih]
    | value document =>
      rw [objectsFrom, bind_eq_ok]
      constructor
      · rintro ⟨first, hfirst, h⟩
        obtain ⟨others, hothers, h⟩ := bind_eq_ok.1 h
        cases h
        obtain ⟨own, hown, rfl⟩ := objectsOf_eq_ok_iff.1 hfirst
        obtain ⟨items, more, hitems, hmore, rfl⟩ := ih.1 hothers
        refine ⟨_, own ++ more, unpacks_value_iff.2 ⟨items, rfl, hitems⟩, ?_, List.map_append.symm⟩
        rw [List.mapM_append, hown, hmore]
        rfl
      · rintro ⟨_, own, hitems, hown, rfl⟩
        obtain ⟨others, rfl, hothers⟩ := unpacks_value_iff.1 hitems
        rw [List.mapM_append] at hown
        obtain ⟨first, hfirst, hown⟩ := bind_eq_ok.1 hown
        obtain ⟨more, hmore, hown⟩ := bind_eq_ok.1 hown
        cases hown
        refine ⟨_, objectsOf_eq_ok_iff.2 ⟨first, hfirst, rfl⟩, ?_⟩
        rw [ih.2 ⟨others, more, hothers, hmore, rfl⟩, List.map_append]
        rfl

/-- A stream that can be read loads, or else one of its documents is to blame. -/
theorem objectsFrom_of_unpacks (defaultName : Option String) (start : Nat)
    {documents : List Yaml.Document} {items : List Json} (h : Unpacks documents items) :
    (∃ objects, objectsFrom defaultName start documents = .ok objects) ∨
      ∃ index fault, objectsFrom defaultName start documents = .error (.invalidObject index fault) := by
  induction documents generalizing start items with
  | nil => exact Or.inl ⟨[], rfl⟩
  | cons document rest ih =>
    cases document with
    | unreadable => exact absurd h not_unpacks_unreadable
    | empty => exact ih (start + 1) (unpacks_empty_iff.1 h)
    | value document =>
      obtain ⟨others, -, hothers⟩ := unpacks_value_iff.1 h
      rw [objectsFrom]
      cases hfirst : objectsOf defaultName start document with
      | error error =>
        obtain ⟨fault, -, rfl⟩ := objectsOf_eq_error_iff.1 hfirst
        exact Or.inr ⟨start, fault, rfl⟩
      | ok objects =>
        rcases ih (start + 1) hothers with ⟨more, hmore⟩ | ⟨index, fault, hfault⟩
        · exact Or.inl ⟨objects ++ more, by rw [hmore]; rfl⟩
        · exact Or.inr ⟨index, fault, by rw [hfault]; rfl⟩

/-! ## The first fault

`FirstFault` follows the stream to the document that is to blame. All documents before it are fine, and
within it all descriptions before the bad one are. -/

/-- A description that an object can be read from. -/
def IsObject (item : Json) : Prop :=
  ∃ object, Object.ofJson item = .ok object

theorem exists_mapM_ofJson_iff {items : List Json} :
    (∃ own, items.mapM Object.ofJson = .ok own) ↔ ∀ item ∈ items, IsObject item := by
  constructor
  · rintro ⟨own, h⟩ item hm
    exact ok_of_mapM_eq_ok h hm
  · exact exists_mapM_eq_ok

/-- The document with a number is the first one to describe what is no object, and this is the fault of
the first such description in it. All documents before it count, the empty ones too. -/
inductive FirstFault : List Yaml.Document → Nat → Mismatch → Prop where
  | here {document bad : Json} {rest : List Yaml.Document} {good others : List Json} {fault : Mismatch}
      (hd : Unpacks [.value document] (good ++ bad :: others)) (hgood : ∀ item ∈ good, IsObject item)
      (hbad : Object.ofJson bad = .error fault) :
      FirstFault (.value document :: rest) 0 fault
  | empty {rest : List Yaml.Document} {index : Nat} {fault : Mismatch} (h : FirstFault rest index fault) :
      FirstFault (.empty :: rest) (index + 1) fault
  | later {document : Json} {rest : List Yaml.Document} {items : List Json} {index : Nat}
      {fault : Mismatch} (hd : Unpacks [.value document] items) (hitems : ∀ item ∈ items, IsObject item)
      (h : FirstFault rest index fault) :
      FirstFault (.value document :: rest) (index + 1) fault

theorem unpacks_single_iff {document : Json} {items : List Json} :
    Unpacks [.value document] items ↔ items = descriptions document := by
  simp [unpacks_value_iff, unpacks_nil_iff]

theorem firstFault_value_iff {document : Json} {rest : List Yaml.Document} {index : Nat}
    {fault : Mismatch} :
    FirstFault (.value document :: rest) index fault ↔
      index = 0 ∧ (descriptions document).mapM Object.ofJson = .error fault ∨
        ∃ place, index = place + 1 ∧ (∃ own, (descriptions document).mapM Object.ofJson = .ok own) ∧
          FirstFault rest place fault := by
  constructor
  · intro h
    cases h with
    | here hd hgood hbad =>
      exact Or.inl ⟨rfl, mapM_eq_error.2 ⟨_, _, _, (unpacks_single_iff.1 hd).symm, hgood, hbad⟩⟩
    | later hd hitems h =>
      rw [unpacks_single_iff.1 hd] at hitems
      exact Or.inr ⟨_, rfl, exists_mapM_ofJson_iff.2 hitems, h⟩
  · rintro (⟨rfl, h⟩ | ⟨place, rfl, hitems, h⟩)
    · obtain ⟨good, bad, others, heq, hgood, hbad⟩ := mapM_eq_error.1 h
      exact .here (unpacks_single_iff.2 heq.symm) hgood hbad
    · exact .later (unpacks_single_iff.2 rfl) (exists_mapM_ofJson_iff.1 hitems) h

/-- **The first description that is no object is reported, under the number of its document.** -/
theorem objectsFrom_eq_invalidObject_iff {defaultName : Option String} {start index : Nat}
    {documents : List Yaml.Document} {fault : Mismatch} :
    objectsFrom defaultName start documents = .error (.invalidObject index fault) ↔
      ∃ place, index = start + place ∧ FirstFault documents place fault := by
  induction documents generalizing start with
  | nil =>
    constructor
    · exact nofun
    · rintro ⟨_, -, h⟩
      cases h
  | cons document rest ih =>
    cases document with
    | unreadable =>
      constructor
      · exact nofun
      · rintro ⟨_, -, h⟩
        cases h
    | empty =>
      rw [objectsFrom, ih]
      constructor
      · rintro ⟨place, rfl, h⟩
        exact ⟨place + 1, by omega, .empty h⟩
      · rintro ⟨_, rfl, h⟩
        cases h with
        | empty h => exact ⟨_, by omega, h⟩
    | value document =>
      -- the document is to blame itself, or it loads and a later one is, counted from the next number
      rw [objectsFrom, bind_eq_error]
      simp only [firstFault_value_iff]
      constructor
      · rintro (hfirst | ⟨first, hfirst, h⟩)
        · obtain ⟨_, hmap, heq⟩ := objectsOf_eq_error_iff.1 hfirst
          cases heq
          exact ⟨0, rfl, Or.inl ⟨rfl, hmap⟩⟩
        · obtain ⟨own, hown, -⟩ := objectsOf_eq_ok_iff.1 hfirst
          rcases bind_eq_error.1 h with h | ⟨_, _, h⟩
          · obtain ⟨place, rfl, hplace⟩ := ih.1 h
            exact ⟨place + 1, by omega, Or.inr ⟨place, rfl, ⟨own, hown⟩, hplace⟩⟩
          · cases h
      · rintro ⟨_, rfl, ⟨rfl, hmap⟩ | ⟨place, rfl, ⟨own, hown⟩, h⟩⟩
        · exact Or.inl (objectsOf_eq_error_iff.2 ⟨fault, hmap, rfl⟩)
        · have hrest : objectsFrom defaultName (start + 1) rest =
              .error (.invalidObject (start + (place + 1)) fault) :=
            ih.2 ⟨place, by omega, h⟩
          exact Or.inr ⟨_, objectsOf_eq_ok_iff.2 ⟨own, hown, rfl⟩, bind_eq_error.2 (Or.inl hrest)⟩

/-! ## Packing

A list stands for its items, and only a list does. The run that is packed must not have documents of kind
`List` in it, for their items are not unpacked a second time. -/

/-- Two streams that differ in how documents are packed into lists and in where empty ones stand. Only
documents that are not of kind `List` themselves are packed. -/
inductive Repacked : List Yaml.Document → List Yaml.Document → Prop where
  | pack (front back : List Yaml.Document) {run : List Json} {document : Json}
      (hrun : ∀ single ∈ run, single.get? "kind" ≠ some (.str "List")) (hd : IsListOf document run) :
      Repacked (front ++ (run.map .value ++ back)) (front ++ .value document :: back)
  | skip (front back : List Yaml.Document) : Repacked (front ++ .empty :: back) (front ++ back)
  | refl (documents : List Yaml.Document) : Repacked documents documents
  | symm {a b : List Yaml.Document} (h : Repacked a b) : Repacked b a
  | trans {a b c : List Yaml.Document} (hab : Repacked a b) (hbc : Repacked b c) : Repacked a c

theorem unpacks_run_iff {run items : List Json}
    (hrun : ∀ single ∈ run, single.get? "kind" ≠ some (.str "List")) :
    Unpacks (run.map .value) items ↔ items = run := by
  induction run generalizing items with
  | nil => exact unpacks_nil_iff
  | cons single run ih =>
    -- a document that is packed is no list, so that it describes itself
    have hsingle : ¬ ∃ own, IsListOf single own := fun ⟨_, hkind, _⟩ =>
      hrun single List.mem_cons_self hkind
    have hrest : ∀ other ∈ run, other.get? "kind" ≠ some (.str "List") := fun other ho =>
      hrun other (List.mem_cons_of_mem _ ho)
    rw [List.map_cons, unpacks_value_iff, descriptions_of_not_isListOf hsingle]
    simp [ih hrest]

theorem unpacks_packed_iff {run : List Json} {document : Json} {back : List Yaml.Document}
    {items : List Json} (hrun : ∀ single ∈ run, single.get? "kind" ≠ some (.str "List"))
    (hd : IsListOf document run) :
    Unpacks (run.map .value ++ back) items ↔ Unpacks (.value document :: back) items := by
  rw [unpacks_append_iff, unpacks_value_iff, descriptions_of_isListOf hd]
  simp only [unpacks_run_iff hrun]
  constructor
  · rintro ⟨_, others, rfl, rfl, h⟩
    exact ⟨others, rfl, h⟩
  · rintro ⟨others, rfl, h⟩
    exact ⟨run, others, rfl, rfl, h⟩

/-- **Packing documents into a list and adding empty documents does not change what is described.** -/
theorem Repacked.unpacks_iff {a b : List Yaml.Document} (h : Repacked a b) (items : List Json) :
    Unpacks a items ↔ Unpacks b items := by
  -- induction on how the streams were made from each other
  induction h generalizing items with
  | pack front back hrun hd => simp only [unpacks_append_iff, unpacks_packed_iff hrun hd]
  | skip front back => simp only [unpacks_append_iff, unpacks_empty_iff]
  | refl => rfl
  | symm _ ih => exact (ih items).symm
  | trans _ _ ihab ihbc => exact (ihab items).trans (ihbc items)

/-! ## Manifests

A manifest is a stream that is counted from zero, loaded into a store that refuses no question. -/

theorem ofDocuments_eq_ok_iff {defaultName : Option String} {documents : List Yaml.Document}
    {store : Store} :
    ofDocuments defaultName documents = .ok store ↔
      ∃ items own, Unpacks documents items ∧ items.mapM Object.ofJson = .ok own ∧
        store = { objects := own.map (·.withDefaultNamespace defaultName) } := by
  have hmap : ofDocuments defaultName documents = .ok store ↔
      ∃ objects, objectsFrom defaultName 0 documents = .ok objects ∧ store = { objects } := by
    unfold ofDocuments
    cases objectsFrom defaultName 0 documents with
    | error error => exact ⟨nofun, nofun⟩
    | ok objects =>
      constructor
      · intro h
        cases h
        exact ⟨objects, rfl, rfl⟩
      · rintro ⟨_, h, rfl⟩
        cases h
        rfl
  simp only [hmap, objectsFrom_eq_ok_iff]
  constructor
  · rintro ⟨_, ⟨items, own, hitems, hown, rfl⟩, rfl⟩
    exact ⟨items, own, hitems, hown, rfl⟩
  · rintro ⟨items, own, hitems, hown, rfl⟩
    exact ⟨_, ⟨items, own, hitems, hown, rfl⟩, rfl⟩

theorem ofDocuments_eq_invalidObject_iff {defaultName : Option String}
    {documents : List Yaml.Document} {index : Nat} {fault : Mismatch} :
    ofDocuments defaultName documents = .error (.invalidObject index fault) ↔
      FirstFault documents index fault := by
  have hmap : ofDocuments defaultName documents = .error (.invalidObject index fault) ↔
      objectsFrom defaultName 0 documents = .error (.invalidObject index fault) := by
    unfold ofDocuments
    cases objectsFrom defaultName 0 documents with
    | error error =>
      show Except.error error = _ ↔ Except.error error = _
      simp
    | ok objects => exact ⟨nofun, nofun⟩
  rw [hmap, objectsFrom_eq_invalidObject_iff]
  simp

/-- **A manifest loads each object that it describes once and in order.**

* It loads if its documents can be read and all that they describe are objects, and only then. An object
  without namespace is then placed in the default one, where there is one; nothing else is changed.
* Packing documents into lists and adding empty documents changes nothing.
* The first description that is no object is reported with the number of its document, which counts the
  empty ones.
* One such description is enough for the whole manifest to be refused. -/
theorem manifest_loads_each_once (defaultName : Option String) :
    (∀ documents store, ofDocuments defaultName documents = .ok store ↔
      ∃ items own, Unpacks documents items ∧ items.mapM Object.ofJson = .ok own ∧
        store.refused = [] ∧
        store.objects = own.map fun object =>
          { object with
            metadata :=
              { object.metadata with namespaceName := object.namespaceName.or defaultName } }) ∧
    (∀ a b, Repacked a b →
      (ofDocuments defaultName a).toOption = (ofDocuments defaultName b).toOption) ∧
    (∀ documents index fault,
      ofDocuments defaultName documents = .error (.invalidObject index fault) ↔
        FirstFault documents index fault) ∧
    ∀ documents items, Unpacks documents items → (∃ item ∈ items, ¬ IsObject item) →
      ∃ index fault, ofDocuments defaultName documents = .error (.invalidObject index fault) := by
  refine ⟨fun documents store => ?_, fun a b hab => ?_,
    fun _ _ _ => ofDocuments_eq_invalidObject_iff, fun documents items hitems ⟨item, hm, hno⟩ => ?_⟩
  · simp only [ofDocuments_eq_ok_iff, Object.withDefaultNamespace_eq]
    obtain ⟨objects, refused⟩ := store
    simp only [Store.mk.injEq, and_comm]
  · refine Option.ext fun store => ?_
    simp only [toOption_eq_some, ofDocuments_eq_ok_iff, hab.unpacks_iff]
  · -- the stream can be read, so that it loads or a description is to blame; and it does not load
    rcases objectsFrom_of_unpacks defaultName 0 hitems with ⟨objects, hok⟩ | ⟨index, fault, hfault⟩
    · obtain ⟨others, own, hothers, hown, -⟩ := objectsFrom_eq_ok_iff.1 hok
      rw [hitems.unique hothers] at hm
      exact absurd (exists_mapM_ofJson_iff.1 ⟨own, hown⟩ item hm) hno
    · have hplace := objectsFrom_eq_invalidObject_iff.1 hfault
      obtain ⟨place, rfl, hplace⟩ := hplace
      exact ⟨place, fault, ofDocuments_eq_invalidObject_iff.2 hplace⟩

/-- A pod with a namespace and a config map without one, in a list behind an empty document; and a number
in the place of the config map. -/
theorem manifest_loads_each_once_of_list :
    let pod := Json.obj [("kind", .str "Pod"),
      ("metadata", .obj [("name", .str "p1"), ("namespace", .str "shop")])]
    let settings := Json.obj [("kind", .str "ConfigMap"), ("metadata", .obj [("name", .str "settings")])]
    let list := fun items => Json.obj [("items", .arr items), ("kind", .str "List")]
    let load := ofDocuments (some "default")
    (load [.value pod, .value settings]).toOption =
        (load [.empty, .value (list [pod, settings])]).toOption ∧
      (∃ store, load [.value pod, .value settings] = .ok store ∧
        store.objects.map (·.namespaceName) = [some "shop", some "default"]) ∧
      load [.empty, .value (list [pod, .int 5])] =
        .error (.invalidObject 1 (.invalidType (.int 5) "struct DynamicObject")) := by
  intro pod settings list load
  obtain ⟨hloads, hpacked, hfault, -⟩ := manifest_loads_each_once (some "default")
  have hpod : pod.get? "kind" ≠ some (.str "List") := by
    show some (Json.str "Pod") ≠ some (Json.str "List")
    simp
  have hsettings : settings.get? "kind" ≠ some (.str "List") := by
    show some (Json.str "ConfigMap") ≠ some (Json.str "List")
    simp
  have hkinds : ∀ single ∈ [pod, settings], single.get? "kind" ≠ some (.str "List") := by
    simp only [List.forall_mem_cons]
    exact ⟨hpod, hsettings, nofun⟩
  refine ⟨hpacked _ _ ?_, ?_, (hfault _ _ _).2 ?_⟩
  · exact (Repacked.pack [] [] hkinds ⟨rfl, rfl⟩).trans (Repacked.skip [] _).symm
  · have hitems : Unpacks [.value pod, .value settings] [pod, settings] :=
      (unpacks_run_iff hkinds).2 rfl
    refine ⟨⟨_, []⟩, (hloads _ _).2 ⟨[pod, settings], _, hitems, rfl, rfl, rfl⟩, ?_⟩
    rfl
  · have hlist : Unpacks [.value (list [pod, .int 5])] ([pod] ++ .int 5 :: []) :=
      unpacks_single_iff.2 rfl
    exact .empty (.here hlist (fun item hm => List.mem_singleton.1 hm ▸ ⟨_, rfl⟩) rfl)

end Store

end ClusterGraph
