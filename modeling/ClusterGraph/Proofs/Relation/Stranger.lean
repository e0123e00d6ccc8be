import ClusterGraph.Proofs.Relation.Queries

/-!
# Objects that have nothing to do with each other

A further object in the store changes the relations of an object if the two are tied
(`Object.isTiedTo`): by a name, by ownership, by a selector or by a backend. But a pod reads all services
that it finds before it asks which of them pick it, and a service all ingresses, so that one that is not
tied must be readable, too (`Object.CanRead`):

* **`relations_add`** — a further object that is not tied, and can be read from there, changes no relations.
* **`canRead_of_relations_add`** — one that cannot be read leaves no relations to be found.

There is a lemma for each question that a visit asks, and the two kinds of questions to which the further
object can be a candidate are taken care of by `keepViewed_fetchAll_add`.
-/

namespace ClusterGraph

open Json (Mismatch)

namespace Object

/-! ## What ties an object to another one

One test for each question of a visit, which says whether the other object would be part of the answer. A
test on the data of an object fails where these cannot be read. -/

/-- Whether a view of the object can be taken and passes a test. -/
def shows {α : Type} (object : Object) (view : Object → Except Mismatch α) (test : α → Bool) :
    Bool :=
  (view object).toOption.any test

/-- The key of the services that a pod may be picked by. -/
def servicesKey (object : Object) : ObjectKey :=
  .every object.namespaceName "v1" "Service"

/-- The key of the ingresses that may lead to a service. -/
def ingressesKey (object : Object) : ObjectKey :=
  .every object.namespaceName ResourceKind.ingress.apiVersion ResourceKind.ingress.name

/-- Whether the object names the other one as an owner. -/
def namesOwner (object other : Object) : Bool :=
  object.owners.any fun reference => (reference.key object).describes other

/-- Whether the object is a pod and names the other one as something that it uses. -/
def namesUsed (object other : Object) : Bool :=
  object.isKind .pod && object.shows asPod fun view => view.references.any fun reference =>
    (ObjectKey.one object.namespaceName "v1" reference.kind.name reference.name).describes other

/-- Whether the object is an ingress and names the other one as a service behind it. -/
def namesBackend (object other : Object) : Bool :=
  object.isKind .ingress && object.shows asIngress fun view =>
    (Store.backendNames view).any fun name =>
      (ObjectKey.one object.namespaceName "v1" "Service" name).describes other

/-- Whether the object is a service whose selector picks the other one. -/
def picks (object other : Object) : Bool :=
  object.isKind .service && object.shows asService fun view =>
    !view.selector.isEmpty &&
      ((ObjectKey.every object.namespaceName "v1" "Pod").withSelector view.selector).describes other

/-- Whether the object is a pod and the other one a service whose selector picks it. -/
def isPickedBy (object other : Object) : Bool :=
  object.isKind .pod && object.servicesKey.describes other &&
    other.shows asService fun view => Store.selects view.selector object.labels

/-- Whether the object is a service and the other one an ingress that leads to it. -/
def isLedToBy (object other : Object) : Bool :=
  object.isKind .service && object.ingressesKey.describes other &&
    other.shows asIngress fun view => (Store.backendNames view).contains object.nameAny

/-- Whether a visit of the object would find the other one to be related. -/
def isTiedTo (object other : Object) : Bool :=
  object.namesOwner other || object.namesUsed other || object.namesBackend other ||
    other.isOwnedBy object || object.picks other || object.isPickedBy other ||
      object.isLedToBy other

/-- The other object is well-formed if a visit of the object reads it: a pod reads all services that it
finds, and a service all ingresses. -/
def CanRead (object other : Object) : Prop :=
  (object.isKind .pod = true → object.servicesKey.describes other = true →
    other.asService.isOk = true) ∧
  (object.isKind .service = true → object.ingressesKey.describes other = true →
    other.asIngress.isOk = true)

instance (object other : Object) : Decidable (object.CanRead other) :=
  inferInstanceAs (Decidable (_ ∧ _))

end Object

namespace Store

variable {store : Store} {object stranger : Object} {key : ObjectKey}

/-! ## A further object

It comes last, so that it never takes the place of an object that is found first. -/

/-- The store with a further object. -/
def add (store : Store) (object : Object) : Store :=
  { store with objects := store.objects ++ [object] }

theorem get_add (h : key.describes stranger = false) :
    (store.add stranger).get key = store.get key := by
  have hfind : (store.add stranger).find? key = store.find? key := by
    simp [find?, add, h]
  rw [get, get, hfind]
  rfl

theorem list_add (h : key.describes stranger = false) :
    (store.add stranger).list key = store.list key := by
  simp [list, add, h]

/-- Where the key describes the further object, it is the last one of the list. -/
theorem list_add_of_describes (h : key.describes stranger = true) :
    (store.add stranger).list key = (store.list key).map (· ++ [stranger]) := by
  unfold list
  show (if store.refused.contains key.kind then _ else _) = _
  split
  · rfl
  · simp [add, h, Except.map]

theorem fetchAll_add (h : key.describes stranger = false) :
    (store.add stranger).fetchAll object key = store.fetchAll object key := by
  rw [fetchAll, fetchAll, list_add h]

/-! ## Candidates

A list that is read whole also reads the further object. It is dropped in the end, but only if it can be
read. -/

theorem keepViewed_append {α : Type} {view : Object → Except Mismatch α} {test : α → Bool}
    (objects : List Object) (hok : (view stranger).isOk = true)
    (hnot : stranger.shows view test = false) :
    keepViewed (objects ++ [stranger]) view test = keepViewed objects view test := by
  cases hv : view stranger with
  | error fault =>
    rw [hv] at hok
    cases hok
  | ok seen =>
    have htest : test seen = false := by
      rw [Object.shows, hv] at hnot
      exact hnot
    have hlast : [stranger].mapM (fun object => do pure (object, test (← read object view))) =
        Except.ok [(stranger, false)] := by
      rw [List.mapM_cons, read, hv, ← htest]
      rfl
    unfold keepViewed
    -- the further object is tested last, and fails the test
    rw [List.mapM_append, hlast]
    cases objects.mapM fun object => do pure (object, test (← read object view)) with
    | error fault => rfl
    | ok tested =>
      show Except.ok (((tested ++ [(stranger, false)]).filter (·.2)).map (·.1)) =
        Except.ok ((tested.filter (·.2)).map (·.1))
      rw [List.filter_append]
      simp

theorem keepViewed_fetchAll_add {α : Type} {view : Object → Except Mismatch α} {test : α → Bool}
    (hok : key.describes stranger = true → (view stranger).isOk = true)
    (hnot : (key.describes stranger && stranger.shows view test) = false) :
    ((store.add stranger).fetchAll object key >>= fun objects => keepViewed objects view test) =
      store.fetchAll object key >>= fun objects => keepViewed objects view test := by
  cases hkey : key.describes stranger with
  | false => rw [fetchAll_add hkey]
  | true =>
    rw [hkey, Bool.true_and] at hnot
    rw [fetchAll, fetchAll, list_add_of_describes hkey]
    cases store.list key with
    | error fault => rfl
    | ok objects => exact keepViewed_append objects (hok hkey) hnot

theorem isOk_of_keepViewed_fetchAll_add {α : Type} {view : Object → Except Mismatch α}
    {test : α → Bool} {kept : List Object} (hkey : key.describes stranger = true)
    (h : ((store.add stranger).fetchAll object key >>= fun objects =>
      keepViewed objects view test) = .ok kept) : (view stranger).isOk = true := by
  rw [fetchAll, list_add_of_describes hkey] at h
  cases hl : store.list key with
  | error fault => rw [hl] at h; cases h
  | ok objects =>
    rw [hl] at h
    exact isOk_of_keepViewed h (List.mem_append_right _ (List.mem_singleton_self stranger))

/-! ## The questions of a visit

Those that go by names are asked for single objects, and the names do not change with the store. Those
that go through a list either do not list the further object, or list it and drop it. -/

theorem ownersOf_add (h : object.namesOwner stranger = false) :
    (store.add stranger).ownersOf object = store.ownersOf object := by
  refine fetchNamed_congr fun key hk => get_add ?_
  obtain ⟨reference, hr, rfl⟩ := List.mem_map.1 hk
  exact Bool.eq_false_iff.2 (List.any_eq_false.1 h reference hr)

theorem childrenOf_add (h : stranger.isOwnedBy object = false) :
    (store.add stranger).childrenOf object = store.childrenOf object := by
  unfold childrenOf
  cases (ResourceKind.ofGroupKind? object.groupKind).bind childKind? with
  | none => rfl
  | some kind =>
    cases hkey : (ObjectKey.every object.namespaceName kind.apiVersion kind.name).describes
        stranger with
    | false => simp only [fetchAll_add hkey]
    | true =>
      -- it is a candidate, and not owned
      simp only [fetchAll, list_add_of_describes hkey]
      cases store.list (.every object.namespaceName kind.apiVersion kind.name) with
      | error fault => rfl
      | ok candidates =>
        show Except.ok ((candidates ++ [stranger]).filter (·.isOwnedBy object)) =
          Except.ok (candidates.filter (·.isOwnedBy object))
        simp [List.filter_append, h]

theorem selectedPods_add (hkind : object.isKind .service = true)
    (h : object.picks stranger = false) :
    (store.add stranger).selectedPods object = store.selectedPods object := by
  rw [Object.picks, hkind, Bool.true_and, Object.shows] at h
  unfold selectedPods read
  cases hv : object.asService with
  | error fault => rfl
  | ok view =>
    rw [hv] at h
    show (if view.selector.isEmpty then pure [] else (store.add stranger).fetchAll object _) =
      if view.selector.isEmpty then pure [] else store.fetchAll object _
    -- an empty selector asks nothing at all
    cases hempty : view.selector.isEmpty with
    | true => rfl
    | false =>
      have hkey : ((ObjectKey.every object.namespaceName "v1" "Pod").withSelector
          view.selector).describes stranger = false := by
        simpa [Except.toOption, hempty] using h
      rw [fetchAll_add hkey]

theorem selectingServices_add (hkind : object.isKind .pod = true)
    (h : object.isPickedBy stranger = false) (hread : object.CanRead stranger) :
    (store.add stranger).selectingServices object = store.selectingServices object := by
  rw [Object.isPickedBy, hkind, Bool.true_and] at h
  exact keepViewed_fetchAll_add (hread.1 hkind) h

theorem ingressesFor_add (hkind : object.isKind .service = true)
    (h : object.isLedToBy stranger = false) (hread : object.CanRead stranger) :
    (store.add stranger).ingressesFor object = store.ingressesFor object := by
  rw [Object.isLedToBy, hkind, Bool.true_and] at h
  exact keepViewed_fetchAll_add (hread.2 hkind) h

theorem backendServices_add (hkind : object.isKind .ingress = true)
    (h : object.namesBackend stranger = false) :
    (store.add stranger).backendServices object = store.backendServices object := by
  rw [Object.namesBackend, hkind, Bool.true_and, Object.shows] at h
  unfold backendServices read
  cases hv : object.asIngress with
  | error fault => rfl
  | ok view =>
    rw [hv] at h
    refine fetchNamed_congr fun key hk => get_add ?_
    obtain ⟨name, hn, rfl⟩ := List.mem_map.1 hk
    exact Bool.eq_false_iff.2 (List.any_eq_false.1 h name hn)

theorem mem_of_mem_ascending {texts : List String} {text : String} (h : text ∈ ascending texts) :
    text ∈ texts := by
  unfold ascending at h
  simpa using h

/-- Sorting what a pod mentions adds nothing to it. -/
theorem mem_of_mem_sortedReferences {references : List ObjectReference}
    {reference : ObjectReference} (h : reference ∈ sortedReferences references) :
    reference ∈ references := by
  -- references are sorted kind by kind, and within a kind by name
  obtain ⟨kind, _, hm⟩ := List.mem_flatMap.1 h
  obtain ⟨name, hname, rfl⟩ := List.mem_map.1 hm
  obtain ⟨found, hfound, rfl⟩ := List.mem_map.1 (mem_of_mem_ascending hname)
  obtain ⟨hin, hkind⟩ := List.mem_filter.1 hfound
  rw [← beq_iff_eq.1 hkind]
  exact hin

theorem dependenciesOf_add (hkind : object.isKind .pod = true)
    (h : object.namesUsed stranger = false) :
    (store.add stranger).dependenciesOf object = store.dependenciesOf object := by
  rw [Object.namesUsed, hkind, Bool.true_and, Object.shows] at h
  unfold dependenciesOf read
  cases hv : object.asPod with
  | error fault => rfl
  | ok view =>
    rw [hv] at h
    refine fetchNamed_congr fun key hk => get_add ?_
    obtain ⟨reference, hr, rfl⟩ := List.mem_map.1 hk
    exact Bool.eq_false_iff.2 (List.any_eq_false.1 h reference (mem_of_mem_sortedReferences hr))

/-- **A further object that is not tied to an object, and can be read from there, changes nothing about its
relations.** -/
theorem relations_add (htied : object.isTiedTo stranger = false) (hread : object.CanRead stranger) :
    (store.add stranger).relations object = store.relations object := by
  simp only [Object.isTiedTo, Bool.or_eq_false_iff] at htied
  obtain ⟨⟨⟨⟨⟨⟨howner, hused⟩, hbackend⟩, howned⟩, hpicks⟩, hpicked⟩, hled⟩ := htied
  -- the questions of use depend on the kind of the object, and no object has two of the kinds
  have husage : (store.add stranger).usageRelations object = store.usageRelations object := by
    unfold usageRelations
    by_cases hservice : object.isKind .service = true
    · rw [if_pos hservice, if_pos hservice, selectedPods_add hservice hpicks,
        ingressesFor_add hservice hled hread]
    rw [if_neg hservice, if_neg hservice]
    by_cases hingress : object.isKind .ingress = true
    · rw [if_pos hingress, if_pos hingress, backendServices_add hingress hbackend]
    rw [if_neg hingress, if_neg hingress]
    by_cases hpod : object.isKind .pod = true
    · rw [if_pos hpod, if_pos hpod, selectingServices_add hpod hpicked hread,
        dependenciesOf_add hpod hused]
    · rw [if_neg hpod, if_neg hpod]
  rw [relations, relations, ownersOf_add howner, childrenOf_add howned, husage]

/-- An object that cannot read the further one has no relations any more, only an error. -/
theorem canRead_of_relations_add {relations : List Relation}
    (h : (store.add stranger).relations object = .ok relations) : object.CanRead stranger := by
  obtain ⟨_, _, usage, _, _, husage, _⟩ := exists_of_relations h
  unfold usageRelations at husage
  -- the list with the further object was read whole, or the relations would have been refused
  refine ⟨fun hpod hkey => ?_, fun hservice hkey => ?_⟩
  · have hservice : ¬ object.isKind .service = true := fun hk => by
      cases Object.eq_of_isKind hk hpod
    have hingress : ¬ object.isKind .ingress = true := fun hk => by
      cases Object.eq_of_isKind hk hpod
    rw [if_neg hservice, if_neg hingress, if_pos hpod] at husage
    cases hread : (store.add stranger).selectingServices object with
    | error fault => rw [hread] at husage; cases husage
    | ok services => exact isOk_of_keepViewed_fetchAll_add hkey hread
  · rw [if_pos hservice] at husage
    cases hpods : (store.add stranger).selectedPods object with
    | error fault => rw [hpods] at husage; cases husage
    | ok pods =>
      cases hread : (store.add stranger).ingressesFor object with
      | error fault => rw [hpods, hread] at husage; cases husage
      | ok ingresses => exact isOk_of_keepViewed_fetchAll_add hkey hread

end Store

end ClusterGraph
