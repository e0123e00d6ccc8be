import ClusterGraph.Cluster.Store
import ClusterGraph.Fallible
import ClusterGraph.Proofs.Sample
import ClusterGraph.Proofs.Text.Cut

/-!
# Searching for a resource once

Before a store asks a server for objects, it needs to know how they are found there. It remembers what it has
found out, under one text for API version and kind together. Calls that come one after another are compared
with those of a store that remembers nothing, whatever the connection to the server answers:

* **`memory?_handle`**, **`memory?_after`** — what one call and what a run of calls leave in memory: the
  resources of the types that were needed and that the server has. What a failed search leaves is nothing.
* **`fst_handle`**, **`answers_eq_map`** — as long as the memory is faithful to the server, a call and a run of
  calls have the answers that they have without any memory.
* **`count_searches`** — a type that the server has is searched for once, any other one as often as it is
  needed.
* **`requests_handle`**, **`requests_after`** — the searches are all that the memory saves.
-/

namespace ClusterGraph

/-- The type of the objects that a key describes. -/
def ObjectKey.type (key : ObjectKey) : ObjectType :=
  ⟨key.apiVersion, key.kind⟩

/-- A call of a store. -/
inductive StoreCall where
  | get (key : ObjectKey)
  | list (key : ObjectKey)

/-- What a call finds: one object or none, or all that a key describes. -/
inductive Found where
  | one (object : Option Object)
  | all (objects : List Object)

namespace StoreCall

def key : StoreCall → ObjectKey
  | get key => key
  | list key => key

/-- The type whose resource a call needs. A look-up without a name fails before that. -/
def needed? : StoreCall → Option ObjectType
  | get key => key.name.map fun _ => key.type
  | list key => some key.type

/-- The requests for objects, once the resource is known. -/
def requests (connection : Connection) (resource : ServedResource) : StoreCall → List String
  | get key =>
    match key.name with
    | some name => (connection.object resource (resource.space? key) name).requests
    | none => []
  | list key => (connection.objects resource (resource.space? key) key.labelSelector?).requests

theorem kind_of_needed? {call : StoreCall} {type : ObjectType} (h : call.needed? = some type) :
    type.kind = call.key.kind := by
  cases call with
  | get key =>
    obtain ⟨_, _, rfl⟩ := Option.map_eq_some_iff.1 h
    rfl
  | list key =>
    cases h
    rfl

end StoreCall

/-! ## A store without memory

What a call would be answered if the store searched for its resource each time, and which requests it
would take. Both are functions of the connection alone. -/

namespace Connection

/-- The resource of a type, in the words of a store. -/
def served (connection : Connection) (type : ObjectType) : Except StoreError ServedResource :=
  (connection.resource type.apiVersion type.kind).answer.mapError (.discovery type.apiVersion type.kind)

/-- The answer to a call if nothing is remembered. -/
def answer (connection : Connection) : StoreCall → Except StoreError Found
  | .get key => do
    let some name := key.name | .error (.missingName key.kind)
    let resource ← connection.served key.type
    let reply := connection.object resource (resource.space? key) name
    ((reply.answer.mapError .request).map (·.map resource.withType)).map .one
  | .list key => do
    let resource ← connection.served key.type
    let reply := connection.objects resource (resource.space? key) key.labelSelector?
    ((reply.answer.mapError .request).map (·.map resource.withType)).map .all

/-- The requests of a call that has the server searched for a type, or for none. -/
def requests (connection : Connection) (searched : Option ObjectType) (call : StoreCall) : List String :=
  let search := searched.map fun type => (connection.resource type.apiVersion type.kind).requests
  let objects := call.needed?.bind fun type =>
    (connection.resource type.apiVersion type.kind).answer.toOption.map (call.requests connection)
  search.getD [] ++ objects.getD []

end Connection

namespace ClusterStore

variable {connection : Connection} {store : ClusterStore} {call : StoreCall} {calls : List StoreCall}
  {type t : ObjectType}

/-! ## Calls

Calls change the store, and the next one meets what the last one has left. `searches` notes what each call
has the server searched for; the memory is seen from outside only in it. -/

/-- The answer to a call, and the store after it. -/
def handle (connection : Connection) (store : ClusterStore) :
    StoreCall → Except StoreError Found × ClusterStore
  | .get key => Prod.map (Except.map .one) id (store.get connection key)
  | .list key => Prod.map (Except.map .all) id (store.list connection key)

/-- The store after calls that are made one after another. -/
def after (connection : Connection) (store : ClusterStore) (calls : List StoreCall) : ClusterStore :=
  calls.foldl (fun store call => (store.handle connection call).2) store

/-- The answers to calls that are made one after another. -/
def answers (connection : Connection) (store : ClusterStore) :
    List StoreCall → List (Except StoreError Found)
  | [] => []
  | call :: rest => (store.handle connection call).1 :: answers connection (store.handle connection call).2 rest

/-- What is remembered of a type. -/
def memory? (store : ClusterStore) (type : ObjectType) : Option ServedResource :=
  store.known[resourceKey type.apiVersion type.kind]?

/-- The type that a call has the server searched for: the one that it needs, unless that is remembered. -/
def search? (store : ClusterStore) (call : StoreCall) : Option ObjectType :=
  call.needed?.filter fun type => (store.memory? type).isNone

/-- What each of the calls that are made one after another has the server searched for. -/
def searches (connection : Connection) (store : ClusterStore) : List StoreCall → List (Option ObjectType)
  | [] => []
  | call :: rest => store.search? call :: searches connection (store.handle connection call).2 rest

/-- What is remembered is what the server says. -/
def Faithful (connection : Connection) (store : ClusterStore) : Prop :=
  ∀ type : ObjectType, '/' ∉ type.kind.toList → ∀ resource, store.memory? type = some resource →
    (connection.resource type.apiVersion type.kind).answer = .ok resource

theorem search?_eq_some_iff :
    store.search? call = some type ↔ call.needed? = some type ∧ store.memory? type = none := by
  rw [search?, Option.filter_eq_some_iff, Option.isNone_iff_eq_none]

/-! ## The search for a resource

A search adds what it finds to the memory and nothing else. The name under which a resource is remembered
joins API version and kind with a slash; as long as no kind has a slash in it, different types have
different names. -/

/-- The store after a search for the resource of a type: a failure is not remembered. -/
def searched (connection : Connection) (store : ClusterStore) (t : ObjectType) : ClusterStore :=
  { store.asked (connection.resource t.apiVersion t.kind).requests with
    known :=
      match (connection.resource t.apiVersion t.kind).answer with
      | .ok resource => store.known.insert (resourceKey t.apiVersion t.kind) resource
      | .error _ => store.known }

theorem resource_of_memory?_eq_some {resource : ServedResource} (h : store.memory? t = some resource) :
    store.resource connection t.apiVersion t.kind = (.ok resource, store) := by
  unfold memory? at h
  simp [ClusterStore.resource, h]

theorem resource_of_memory?_eq_none (h : store.memory? t = none) :
    store.resource connection t.apiVersion t.kind =
      (connection.served t, store.searched connection t) := by
  unfold memory? at h
  simp only [ClusterStore.resource, Std.ExtTreeMap.get?_eq_getElem?, h, searched, Connection.served]
  -- a failure leaves no trace in the memory
  cases (connection.resource t.apiVersion t.kind).answer <;> rfl

theorem resourceKey_inj (ht : '/' ∉ t.kind.toList) (htype : '/' ∉ type.kind.toList) :
    resourceKey t.apiVersion t.kind = resourceKey type.apiVersion type.kind ↔ t = type := by
  rw [resourceKey, resourceKey, Text.cut_last rfl ht htype, ObjectType.mk.injEq]

/-- What was unknown is known after a search that succeeds; nothing else is learnt. -/
theorem memory?_searched (h : store.memory? t = none) (ht : '/' ∉ t.kind.toList)
    (htype : '/' ∉ type.kind.toList) : (store.searched connection t).memory? type =
      (store.memory? type).or
        (if t = type then (connection.resource t.apiVersion t.kind).answer.toOption else none) := by
  unfold memory? searched at *
  cases (connection.resource t.apiVersion t.kind).answer with
  | error error => simp [Except.toOption]
  | ok resource =>
    simp only [Dict.getElem?_insert, resourceKey_inj ht htype]
    by_cases heq : t = type
    · subst heq
      simp [h, Except.toOption]
    · simp [heq]

theorem memory?_resource (ht : '/' ∉ t.kind.toList) (htype : '/' ∉ type.kind.toList) :
    (store.resource connection t.apiVersion t.kind).2.memory? type =
      (store.memory? type).or
        (if t = type then (connection.resource t.apiVersion t.kind).answer.toOption else none) := by
  -- what is remembered stays, and for a type of another name nothing is learnt
  cases h : store.memory? t with
  | none => rw [resource_of_memory?_eq_none h, memory?_searched h ht htype]
  | some resource =>
    rw [resource_of_memory?_eq_some h]
    by_cases heq : t = type
    · rw [← heq, h, Option.some_or]
    · rw [if_neg heq, Option.or_none]

theorem fst_resource (hstore : Faithful connection store) (ht : '/' ∉ t.kind.toList) :
    (store.resource connection t.apiVersion t.kind).1 = connection.served t := by
  cases h : store.memory? t with
  | none => rw [resource_of_memory?_eq_none h]
  | some resource =>
    rw [resource_of_memory?_eq_some h, Connection.served, hstore t ht resource h]
    rfl

/-! ## One call

A call gets its resource first, and then its objects. Of these two steps only the first one looks at the
memory, and only the second one depends on the call; so a call is put together from what is known of the
two. -/

/-- The store after the requests for objects of a resource, if the resource was found. -/
def fetched (connection : Connection) (call : StoreCall) :
    Except StoreError ServedResource × ClusterStore → ClusterStore
  | (.error _, store) => store
  | (.ok resource, store) => store.asked (call.requests connection resource)

/-- A call needs no resource and leaves the store as it is, or it gets its resource first. -/
theorem snd_handle : (store.handle connection call).2 =
    match call.needed? with
    | some t => fetched connection call (store.resource connection t.apiVersion t.kind)
    | none => store := by
  cases call with
  | get key =>
    simp only [handle, get, StoreCall.needed?, Prod.map_snd, id_eq]
    cases hname : key.name with
    | none => rfl
    | some name =>
      simp only [Option.map_some, ObjectKey.type]
      obtain ⟨found, next⟩ := store.resource connection key.apiVersion key.kind
      cases found with
      | error error => rfl
      | ok resource => simp only [fetched, StoreCall.requests, hname]
  | list key =>
    simp only [handle, list, StoreCall.needed?, ObjectKey.type, Prod.map_snd, id_eq]
    obtain ⟨found, next⟩ := store.resource connection key.apiVersion key.kind
    cases found <;> rfl

theorem fst_handle (hstore : Faithful connection store) (hcall : '/' ∉ call.key.kind.toList) :
    (store.handle connection call).1 = connection.answer call := by
  have hfound : (store.resource connection call.key.apiVersion call.key.kind).1 =
      connection.served call.key.type := fst_resource (t := call.key.type) hstore hcall
  cases call with
  | get key =>
    simp only [StoreCall.key] at hfound
    simp only [handle, get, Connection.answer, ← hfound, Prod.map_fst]
    -- without a name the call fails before any resource is needed
    cases key.name with
    | none => rfl
    | some name =>
      obtain ⟨found, next⟩ := store.resource connection key.apiVersion key.kind
      cases found <;> simp only [bind, Except.bind, Except.map]
  | list key =>
    simp only [StoreCall.key] at hfound
    simp only [handle, list, Connection.answer, ← hfound, Prod.map_fst]
    obtain ⟨found, next⟩ := store.resource connection key.apiVersion key.kind
    cases found <;> simp only [bind, Except.bind, Except.map]

theorem memory?_fetched (found : Except StoreError ServedResource × ClusterStore) :
    (fetched connection call found).memory? type = found.2.memory? type := by
  unfold fetched memory?
  split <;> rfl

theorem memory?_handle (hcall : '/' ∉ call.key.kind.toList) (htype : '/' ∉ type.kind.toList) :
    (store.handle connection call).2.memory? type =
      (store.memory? type).or
        (if call.needed? = some type then (connection.resource type.apiVersion type.kind).answer.toOption
          else none) := by
  rw [snd_handle]
  cases hneeded : call.needed? with
  | none => simp
  | some t =>
    have ht : '/' ∉ t.kind.toList := StoreCall.kind_of_needed? hneeded ▸ hcall
    simp only [memory?_fetched, memory?_resource ht htype, Option.some.injEq]
    by_cases heq : t = type
    · rw [heq]
    · rw [if_neg heq, if_neg heq]

theorem faithful_handle (hstore : Faithful connection store) (hcall : '/' ∉ call.key.kind.toList) :
    Faithful connection (store.handle connection call).2 := by
  intro type htype resource h
  rw [memory?_handle hcall htype] at h
  obtain h | ⟨-, h⟩ := Option.or_eq_some_iff.1 h
  · exact hstore type htype resource h
  · -- what the call has added to the memory is an answer of the server
    split at h
    · exact toOption_eq_some.1 h
    · cases h

theorem requests_fetched (found : Except StoreError ServedResource × ClusterStore) :
    (fetched connection call found).requests =
      found.2.requests ++ (found.1.toOption.map (call.requests connection)).getD [] := by
  obtain ⟨found, store⟩ := found
  cases found with
  | error error => exact (List.append_nil _).symm
  | ok resource => rfl

theorem toOption_served :
    (connection.served t).toOption = (connection.resource t.apiVersion t.kind).answer.toOption := by
  unfold Connection.served
  cases (connection.resource t.apiVersion t.kind).answer <;> rfl

theorem requests_resource (h : call.needed? = some t) :
    (store.resource connection t.apiVersion t.kind).2.requests = store.requests ++
      ((store.search? call).map fun t => (connection.resource t.apiVersion t.kind).requests).getD [] := by
  cases hmemory : store.memory? t with
  | none =>
    have hsearch : store.search? call = some t := search?_eq_some_iff.2 ⟨h, hmemory⟩
    rw [resource_of_memory?_eq_none hmemory, hsearch]
    rfl
  | some resource =>
    have hsearch : store.search? call = none := by simp [search?, h, hmemory]
    rw [resource_of_memory?_eq_some hmemory, hsearch]
    exact (List.append_nil _).symm

theorem requests_handle (hstore : Faithful connection store) (hcall : '/' ∉ call.key.kind.toList) :
    (store.handle connection call).2.requests =
      store.requests ++ connection.requests (store.search? call) call := by
  rw [snd_handle]
  cases hneeded : call.needed? with
  | none => simp [Connection.requests, search?, hneeded]
  | some t =>
    have ht : '/' ∉ t.kind.toList := StoreCall.kind_of_needed? hneeded ▸ hcall
    simp only [requests_fetched, requests_resource hneeded, fst_resource hstore ht, toOption_served,
      Connection.requests, hneeded, List.append_assoc, Option.bind_some]

/-! ## Calls one after another

By induction on the calls, each of which leaves a memory that is faithful to the server. A type is
searched for as long as it is not remembered: forever if the server does not have it, once if it does. -/

theorem faithful_empty (connection : Connection) : Faithful connection {} := by
  intro type _ resource h
  simp [memory?] at h

/-- What is remembered after a run was there before or was needed in the run. -/
theorem memory?_after (hcalls : ∀ call ∈ calls, '/' ∉ call.key.kind.toList)
    (htype : '/' ∉ type.kind.toList) :
    (store.after connection calls).memory? type =
      (store.memory? type).or
        (if some type ∈ calls.map StoreCall.needed? then
          (connection.resource type.apiVersion type.kind).answer.toOption else none) := by
  induction calls generalizing store with
  | nil => simp [after]
  | cons call rest ih =>
    obtain ⟨hcall, hrest⟩ := List.forall_mem_cons.1 hcalls
    show ((store.handle connection call).2.after connection rest).memory? type = _
    rw [ih hrest, memory?_handle hcall htype, Option.or_assoc, List.map_cons]
    by_cases hneeded : call.needed? = some type
    · rw [if_pos hneeded, hneeded, if_pos List.mem_cons_self]
      split
      · rw [Option.or_self]
      · rw [Option.or_none]
    · simp only [if_neg hneeded, Option.none_or, List.mem_cons, Ne.symm hneeded, false_or]

theorem answers_eq_map (hstore : Faithful connection store)
    (hcalls : ∀ call ∈ calls, '/' ∉ call.key.kind.toList) :
    store.answers connection calls = calls.map connection.answer := by
  -- the memory changes from call to call and stays faithful
  induction calls generalizing store with
  | nil => rfl
  | cons call rest ih =>
    obtain ⟨hcall, hrest⟩ := List.forall_mem_cons.1 hcalls
    rw [answers, fst_handle hstore hcall, ih (faithful_handle hstore hcall) hrest, List.map_cons]

theorem requests_after (hstore : Faithful connection store)
    (hcalls : ∀ call ∈ calls, '/' ∉ call.key.kind.toList) :
    (store.after connection calls).requests =
      store.requests ++ (List.zipWith connection.requests (store.searches connection calls) calls).flatten := by
  induction calls generalizing store with
  | nil => simp [after, searches]
  | cons call rest ih =>
    obtain ⟨hcall, hrest⟩ := List.forall_mem_cons.1 hcalls
    show ((store.handle connection call).2.after connection rest).requests = _
    rw [ih (faithful_handle hstore hcall) hrest, requests_handle hstore hcall, searches,
      List.zipWith_cons_cons, List.flatten_cons, List.append_assoc]

/-- What is remembered is not searched for. -/
theorem notMem_searches (hcalls : ∀ call ∈ calls, '/' ∉ call.key.kind.toList)
    (htype : '/' ∉ type.kind.toList) {resource : ServedResource}
    (h : store.memory? type = some resource) : some type ∉ store.searches connection calls := by
  induction calls generalizing store with
  | nil => exact List.not_mem_nil
  | cons call rest ih =>
    obtain ⟨hcall, hrest⟩ := List.forall_mem_cons.1 hcalls
    rw [searches, List.mem_cons]
    rintro (hsearch | htail)
    · rw [(search?_eq_some_iff.1 hsearch.symm).2] at h
      cases h
    · refine ih hrest ?_ htail
      rw [memory?_handle hcall htype, h, Option.some_or]

theorem count_searches (hcalls : ∀ call ∈ calls, '/' ∉ call.key.kind.toList)
    (htype : '/' ∉ type.kind.toList) (h : store.memory? type = none) :
    (store.searches connection calls).count (some type) =
      if (connection.resource type.apiVersion type.kind).answer.isOk then
        min 1 ((calls.map StoreCall.needed?).count (some type))
      else (calls.map StoreCall.needed?).count (some type) := by
  -- along the calls, for a store that does not remember the type yet
  induction calls generalizing store with
  | nil => simp [searches]
  | cons call rest ih =>
    obtain ⟨hcall, hrest⟩ := List.forall_mem_cons.1 hcalls
    have hnext : (store.handle connection call).2.memory? type =
        if call.needed? = some type then (connection.resource type.apiVersion type.kind).answer.toOption
        else none := by
      rw [memory?_handle hcall htype, h, Option.none_or]
    rw [searches, List.map_cons]
    by_cases hneeded : call.needed? = some type
    · have hsearch : store.search? call = some type := search?_eq_some_iff.2 ⟨hneeded, h⟩
      rw [if_pos hneeded] at hnext
      rw [hsearch, hneeded, List.count_cons_self, List.count_cons_self]
      cases hserver : (connection.resource type.apiVersion type.kind).answer with
      | ok resource =>
        rw [hserver] at hnext
        -- a success is remembered, so that no later call searches again
        have hlater : some type ∉ searches connection (store.handle connection call).2 rest :=
          notMem_searches hrest htype hnext
        rw [List.count_eq_zero.2 hlater, Nat.min_eq_left (Nat.le_add_left 1 _)]
        rfl
      | error error =>
        -- a failure leaves the memory as it was
        rw [hserver] at hnext ih
        exact congrArg (· + 1) (ih hrest hnext)
    · have hsearch : store.search? call ≠ some type := fun hs => hneeded (search?_eq_some_iff.1 hs).1
      rw [if_neg hneeded] at hnext
      rw [List.count_cons_of_ne hsearch, List.count_cons_of_ne hneeded, ih hrest hnext]

/-- A search is made for a type that is needed. -/
theorem mem_needed_of_mem_searches (h : some type ∈ store.searches connection calls) :
    some type ∈ calls.map StoreCall.needed? := by
  induction calls generalizing store with
  | nil => cases h
  | cons call rest ih =>
    rw [List.map_cons, List.mem_cons]
    obtain hsearch | htail := List.mem_cons.1 h
    · exact .inl (search?_eq_some_iff.1 hsearch.symm).1.symm
    · exact .inr (ih htail)

/-- **The memory of a store shows only in what it does not ask again.** Calls that are made one after another
have the answers that they have without any memory. A type that the server has is searched for once if it is
needed at all, any other one each time that it is needed; what is remembered in the end are the types that
were needed and that the server has. Apart from the searches, the server is asked for the same as without
memory. -/
theorem calls_transparent (connection : Connection) (calls : List StoreCall)
    (hcalls : ∀ call ∈ calls, '/' ∉ call.key.kind.toList) :
    answers connection {} calls = calls.map connection.answer ∧
    (∀ type : ObjectType, (searches connection {} calls).count (some type) =
      if (connection.resource type.apiVersion type.kind).answer.isOk then
        min 1 ((calls.map StoreCall.needed?).count (some type))
      else (calls.map StoreCall.needed?).count (some type)) ∧
    (∀ type : ObjectType, '/' ∉ type.kind.toList → (after connection {} calls).memory? type =
      if some type ∈ calls.map StoreCall.needed? then
        (connection.resource type.apiVersion type.kind).answer.toOption
      else none) ∧
    (after connection {} calls).requests =
      (List.zipWith connection.requests (searches connection {} calls) calls).flatten := by
  have hempty (type : ObjectType) : memory? {} type = none := Std.ExtTreeMap.getElem?_empty
  refine ⟨answers_eq_map (faithful_empty connection) hcalls, fun type => ?_, fun type htype => ?_, ?_⟩
  · by_cases htype : '/' ∈ type.kind.toList
    · -- no call is about such a type
      have hneeded : some type ∉ calls.map StoreCall.needed? := by
        intro h
        obtain ⟨call, hm, ht⟩ := List.mem_map.1 h
        rw [StoreCall.kind_of_needed? ht] at htype
        exact hcalls call hm htype
      have hsearched : some type ∉ searches connection {} calls :=
        fun h => hneeded (mem_needed_of_mem_searches h)
      rw [List.count_eq_zero.2 hneeded, List.count_eq_zero.2 hsearched, Nat.min_zero, ite_self]
    · exact count_searches hcalls htype (hempty type)
  · rw [memory?_after hcalls htype, hempty type, Option.none_or]
  · exact requests_after (faithful_empty connection) hcalls

/-- Deployments are searched for once in two calls, and a kind that the server does not list is searched for
in each of its two calls. -/
theorem calls_transparent_of_deployments :
    let deployment := ObjectKey.one (some "default") "apps/v1" "Deployment" "web"
    let widget := ObjectKey.every none "apps/v1" "Widget"
    let calls := [.get deployment, .list widget, .list deployment, .list widget]
    (∀ call ∈ calls, '/' ∉ call.key.kind.toList) ∧
    answers Sample.server.connection {} calls = calls.map Sample.server.connection.answer ∧
    (searches Sample.server.connection {} calls).count (some deployment.type) = 1 ∧
    (searches Sample.server.connection {} calls).count (some widget.type) = 2 := by
  intro deployment widget calls
  have hcalls : ∀ call ∈ calls, '/' ∉ call.key.kind.toList := by decide +kernel
  obtain ⟨hanswers, hcount, -, -⟩ := calls_transparent Sample.server.connection calls hcalls
  refine ⟨hcalls, hanswers, ?_, ?_⟩
  · rw [hcount]
    decide +kernel
  · rw [hcount]
    decide +kernel

end ClusterStore
end ClusterGraph
