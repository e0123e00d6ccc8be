import ClusterGraph.Object.Identity
import ClusterGraph.Store.Error

/-!
Looking objects up.

A key names one object or describes several. An object matches it by group and kind, whatever its
version, and by those of namespace, name and labels that the key gives.

The store is the one that is held in memory: a finite list of objects, whose first match answers a question
for one object. Walks, checks and viewers are about such a store. The store that asks the server of a cluster
is another one, `ClusterStore`; what it has in common with this one is that it can fail, and here kinds can
be named that it fails for.
-/

namespace ClusterGraph

/-- What is looked for. A selector lists labels in ascending order of their keys. -/
structure ObjectKey where
  namespaceName : Option String
  apiVersion : String
  kind : String
  name : Option String
  selector : Option (List (String × String))
  deriving DecidableEq, Repr, Inhabited

namespace ObjectKey

/-- The key of one object. -/
def one (namespaceName : Option String) (apiVersion kind name : String) : ObjectKey :=
  ⟨namespaceName, apiVersion, kind, some name, none⟩

/-- The key of all objects of a kind. -/
def every (namespaceName : Option String) (apiVersion kind : String) : ObjectKey :=
  ⟨namespaceName, apiVersion, kind, none, none⟩

/-- The key restricted to objects that carry all of some labels. -/
def withSelector (key : ObjectKey) (labels : List (String × String)) : ObjectKey :=
  { key with selector := some labels }

/-- The group and kind that is looked for. -/
def groupKind (key : ObjectKey) : GroupKind :=
  .ofApiVersion key.apiVersion key.kind

end ObjectKey

/-- Whether labels carry everything that a selector asks for. -/
def carries (labels selector : List (String × String)) : Bool :=
  selector.all fun (key, value) => labels.lookup key == some value

/-- Whether an object is among those that a key describes. -/
def ObjectKey.describes (key : ObjectKey) (object : Object) : Bool :=
  object.groupKind == key.groupKind &&
    key.namespaceName.all (object.namespaceName == some ·) &&
    key.name.all (object.nameAny == ·) &&
    key.selector.all (carries object.labels)

/-- Objects that are held in memory and can be looked up. No question about a kind in `refused` is answered:
it fails with an error of the store, as any question to a store out of reach does. None is refused unless it
is said, so that a store made of objects alone answers every question that names what it looks for. -/
structure Store where
  objects : List Object
  refused : List String := []
  deriving Repr, Inhabited

namespace Store

/-- The first object that a key describes. -/
def find? (store : Store) (key : ObjectKey) : Option Object :=
  store.objects.find? key.describes

/-- Looks for one object; the key has to name it. -/
def get (store : Store) (key : ObjectKey) : Except StoreError (Option Object) :=
  if store.refused.contains key.kind || key.name.isNone then .error (.missingName key.kind)
  else .ok (store.find? key)

/-- All objects that a key describes, in the order of the store. -/
def list (store : Store) (key : ObjectKey) : Except StoreError (List Object) :=
  if store.refused.contains key.kind then .error (.missingName key.kind)
  else .ok (store.objects.filter key.describes)

/-- Only objects of the store are found. -/
theorem mem_of_get {store : Store} {key : ObjectKey} {object : Object}
    (h : store.get key = .ok (some object)) : object ∈ store.objects := by
  unfold get at h
  split at h
  · cases h
  · exact List.mem_of_find?_eq_some (Except.ok.inj h)

/-- Only objects of the store are listed. -/
theorem mem_of_list {store : Store} {key : ObjectKey} {objects : List Object}
    (h : store.list key = .ok objects) {object : Object} (hm : object ∈ objects) :
    object ∈ store.objects := by
  unfold list at h
  split at h
  · cases h
  · cases h
    exact (List.mem_filter.1 hm).1

end Store

end ClusterGraph
