import ClusterGraph.Proofs.Kinds
import ClusterGraph.Relation.Members

/-!
# What a store answers

A question for one object is answered with the first object that its key describes, a question for all of
them with all, and neither answer depends on anything else in the store:

* **`ObjectKey.describes_one_iff`**, **`ObjectKey.describes_every_iff`** — what the two kinds of keys
  describe.
* **`Store.mem_fetchNamed_iff`**, **`Store.mem_fetchAll_iff`**, **`Store.mem_keepViewed_iff`** — what is in
  the answers, where there are any.
* **`Store.fetchNamed_eq_ok`**, **`Store.fetchAll_eq_ok`** — a store that refuses no question answers
  all of them.
* **`Store.fetchNamed_congr`** — two stores that answer each question for one object alike answer a series
  of them alike.
-/

namespace ClusterGraph

/-- The key under which the owner is looked for that a reference of an object names. -/
def OwnerReference.key (reference : OwnerReference) (object : Object) : ObjectKey :=
  .one object.namespaceName reference.apiVersion reference.kind reference.name

namespace ObjectKey

variable {namespaceName : Option String} {apiVersion kind name : String} {object : Object}

/-! ## What a key describes

A key compares the group and kind, the namespace where it gives one, and then the name or the labels.
Versions are not compared. -/

theorem describes_every_iff :
    (every namespaceName apiVersion kind).describes object = true ↔
      object.groupKind = .ofApiVersion apiVersion kind ∧
        ∀ space ∈ namespaceName, object.namespaceName = some space := by
  simp [describes, every, groupKind, Option.all_eq_true]

theorem describes_one_iff :
    (one namespaceName apiVersion kind name).describes object = true ↔
      (every namespaceName apiVersion kind).describes object = true ∧ object.nameAny = name := by
  simp [describes, one, every, groupKind]

theorem kind_of_describes (h : (every namespaceName apiVersion kind).describes object = true) :
    object.kind = kind :=
  congrArg GroupKind.kind (describes_every_iff.1 h).1

theorem describes_withSelector_iff {selector : List (String × String)} :
    ((every namespaceName apiVersion kind).withSelector selector).describes object = true ↔
      (every namespaceName apiVersion kind).describes object = true ∧
        carries object.labels selector = true := by
  simp [describes, withSelector, every, groupKind]

end ObjectKey

namespace Store

/-! ## What is in an answer

Where a question has an answer, its members are those that the key describes, read if a test needs them
read. One member that cannot be read spoils the whole answer. -/

/-- A list from which something is kept has been read whole. -/
theorem isOk_of_keepViewed {α : Type} {objects kept : List Object}
    {view : Object → Except Json.Mismatch α} {test : α → Bool}
    (h : keepViewed objects view test = .ok kept) {object : Object} (hm : object ∈ objects) :
    (view object).isOk = true := by
  obtain ⟨tested, hk, _⟩ := bind_eq_ok.1 h
  obtain ⟨_, hread⟩ := ok_of_mapM_eq_ok hk hm
  obtain ⟨seen, hv, _⟩ := bind_eq_ok.1 hread
  rw [mapError_eq_ok.1 hv]
  rfl

/-- What is kept are the objects that can be read and whose view passes the test. -/
theorem mem_keepViewed_iff {α : Type} {objects kept : List Object}
    {view : Object → Except Json.Mismatch α} {test : α → Bool}
    (h : keepViewed objects view test = .ok kept) {object : Object} :
    object ∈ kept ↔ object ∈ objects ∧ ∃ seen, view object = .ok seen ∧ test seen = true := by
  -- each object is paired with the outcome of its test, and the pairs are filtered afterwards
  obtain ⟨tested, hk, h⟩ := bind_eq_ok.1 h
  cases h
  rw [List.mem_map]
  constructor
  · rintro ⟨entry, hentry, rfl⟩
    obtain ⟨hin, htest⟩ := List.mem_filter.1 hentry
    obtain ⟨item, hitem, hread⟩ := (mem_mapM_iff hk).1 hin
    obtain ⟨seen, hv, hread⟩ := bind_eq_ok.1 hread
    cases hread
    exact ⟨hitem, seen, mapError_eq_ok.1 hv, htest⟩
  · rintro ⟨hin, seen, hv, htest⟩
    have hentry : (object, test seen) ∈ tested := by
      refine (mem_mapM_iff hk).2 ⟨object, hin, ?_⟩
      rw [read, hv]
      rfl
    exact ⟨_, List.mem_filter.2 ⟨hentry, htest⟩, rfl⟩

variable {store other : Store} {visited : Object} {keys : List ObjectKey} {key : ObjectKey}

theorem find?_of_get {found : Option Object} (h : store.get key = .ok found) :
    store.find? key = found := by
  unfold get at h
  split at h
  · cases h
  · exact Except.ok.inj h

theorem find?_of_fetch {found : Option Object} (h : store.fetch visited key = .ok found) :
    store.find? key = found :=
  find?_of_get (mapError_eq_ok.1 h)

theorem mem_fetchAll_iff {objects : List Object} (h : store.fetchAll visited key = .ok objects)
    {object : Object} :
    object ∈ objects ↔ object ∈ store.objects ∧ key.describes object = true := by
  have hlist : store.list key = .ok objects := mapError_eq_ok.1 h
  unfold list at hlist
  split at hlist
  · cases hlist
  · cases hlist
    exact List.mem_filter

theorem mem_fetchNamed_iff {objects : List Object} (h : store.fetchNamed visited keys = .ok objects)
    {object : Object} : object ∈ objects ↔ ∃ key ∈ keys, store.find? key = some object := by
  obtain ⟨found, hk, h⟩ := bind_eq_ok.1 h
  cases h
  have hin : object ∈ found.filterMap id ↔ some object ∈ found := by simp
  rw [hin, mem_mapM_iff hk]
  refine exists_congr fun key => and_congr_right fun hm => ⟨find?_of_fetch, fun hf => ?_⟩
  -- each of the questions is answered, if their series is
  obtain ⟨result, hfetch⟩ := ok_of_mapM_eq_ok hk hm
  rw [hfetch, ← find?_of_fetch hfetch, hf]

/-! ## Which questions are answered

Only the kinds that a store refuses keep it from answering, beside a key without a name where one object
is asked for. So of a store that refuses none every answer can be written down. -/

theorem fetch_congr (h : other.get key = store.get key) :
    other.fetch visited key = store.fetch visited key := by
  rw [fetch, fetch, h]

theorem fetchNamed_congr (h : ∀ key ∈ keys, other.get key = store.get key) :
    other.fetchNamed visited keys = store.fetchNamed visited keys := by
  have hmap : keys.mapM (other.fetch visited) = keys.mapM (store.fetch visited) :=
    mapM_congr fun key hk => fetch_congr (h key hk)
  rw [fetchNamed, fetchNamed, hmap]

theorem get_eq_ok (h : store.refused = []) (hn : key.name.isSome = true) :
    store.get key = .ok (store.find? key) := by
  have hname : key.name.isNone = false := by simpa using hn
  simp [get, h, hname]

theorem list_eq_ok (h : store.refused = []) (key : ObjectKey) :
    store.list key = .ok (store.objects.filter key.describes) := by
  simp [list, h]

theorem fetchAll_eq_ok (h : store.refused = []) (visited : Object) (key : ObjectKey) :
    store.fetchAll visited key = .ok (store.objects.filter key.describes) := by
  rw [fetchAll, list_eq_ok h]
  rfl

theorem fetchNamed_eq_ok (h : store.refused = []) (visited : Object)
    (hn : ∀ key ∈ keys, key.name.isSome = true) :
    store.fetchNamed visited keys = .ok (keys.filterMap store.find?) := by
  have hfetch : ∀ key ∈ keys, store.fetch visited key = pure (store.find? key) := fun key hk => by
    rw [fetch, get_eq_ok h (hn key hk)]
    rfl
  -- a series of questions of which none fails is answered one by one
  have hmap : keys.mapM (store.fetch visited) = .ok (keys.map store.find?) := by
    rw [mapM_congr hfetch, List.mapM_pure]
    rfl
  have hid : (keys.map store.find?).filterMap id = keys.filterMap store.find? := by
    rw [List.filterMap_map]
    rfl
  rw [fetchNamed, hmap, ← hid]
  rfl

theorem relations_eq_ok {object : Object} {owners children : List Object} {usage : List Relation}
    (ho : store.ownersOf object = .ok owners) (hc : store.childrenOf object = .ok children)
    (hu : store.usageRelations object = .ok usage) :
    store.relations object =
      .ok (owners.map .incoming ++ children.map .outgoing ++ usage) := by
  rw [Store.relations, ho, hc, hu]
  rfl

end Store

end ClusterGraph
