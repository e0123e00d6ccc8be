import ClusterGraph.Proofs.Relation.Queries
import ClusterGraph.Proofs.Traversal.Once

/-!
# A walk stays in its namespace

Each question about a visited object is confined to the namespace of this object, whatever else it takes
from the object: names in owner references, labels in selectors, backends, or what a pod mentions.

* **`Finds.sharesSpace`** — so whatever any of the questions finds is in the namespace of the visited
  object, and no relation leads out of it.
* **`Reports.staysIn`** — a call about reached objects mentions objects of one namespace only.
* **`stays_in_namespace`** — the walk makes no other calls, whatever its receiver refuses, and neither do
  visits that take their steps side by side. A walk that fails or that is cancelled on the way has made some
  of these calls and no others.

An object without a namespace is confined to nothing: questions about it are asked everywhere.
-/

namespace ClusterGraph

/-- Whether the other object is in the namespace of this one, if this one is in any. -/
def Object.SharesSpace (object other : Object) : Prop :=
  ∀ space ∈ object.namespaceName, other.namespaceName = some space

/-! ## The questions

Every key is made with the namespace of the visited object, and an object that a key describes is in the
namespace of the key. So it only has to be checked, question by question, that what is found was described
by such a key. -/

theorem ObjectKey.sharesSpace_of_describes {key : ObjectKey} {object found : Object}
    (hk : key.namespaceName = object.namespaceName) (h : key.describes found = true) :
    object.SharesSpace found := by
  have hspace : key.namespaceName.all (found.namespaceName == some ·) = true := by
    simp only [ObjectKey.describes, Bool.and_eq_true] at h
    exact h.1.1.2
  intro space hs
  rw [← hk] at hs
  exact eq_of_beq ((Option.all_eq_true _ _).1 hspace space hs)

namespace Store

variable {store : Store} {object found : Object} {objects : List Object}

theorem sharesSpace_of_fetchNamed {keys : List ObjectKey}
    (h : store.fetchNamed object keys = .ok objects) (hm : found ∈ objects)
    (hk : ∀ key ∈ keys, key.namespaceName = object.namespaceName) : object.SharesSpace found := by
  obtain ⟨key, hkey, hf⟩ := (mem_fetchNamed_iff h).1 hm
  exact ObjectKey.sharesSpace_of_describes (hk key hkey) (List.find?_some hf)

theorem sharesSpace_of_fetchAll {key : ObjectKey} (h : store.fetchAll object key = .ok objects)
    (hm : found ∈ objects) (hk : key.namespaceName = object.namespaceName) :
    object.SharesSpace found :=
  ObjectKey.sharesSpace_of_describes hk ((mem_fetchAll_iff h).1 hm).2

/-- The keys of a series of questions are made from the items of a list, all of them in one namespace. -/
theorem sharesSpace_of_fetchNamed_map {α : Type} {items : List α} {key : α → ObjectKey}
    (h : store.fetchNamed object (items.map key) = .ok objects) (hm : found ∈ objects)
    (hk : ∀ item, (key item).namespaceName = object.namespaceName) : object.SharesSpace found := by
  refine sharesSpace_of_fetchNamed h hm fun key hkey => ?_
  obtain ⟨item, _, rfl⟩ := List.mem_map.1 hkey
  exact hk item

/-- **No question leads out of the namespace of the visited object.** -/
theorem Finds.sharesSpace (h : store.Finds object found) : object.SharesSpace found := by
  cases h with
  | owner h hm => exact sharesSpace_of_fetchNamed_map h hm fun _ => rfl
  | child h hm =>
    unfold childrenOf at h
    split at h
    · cases h
      cases hm
    · obtain ⟨candidates, hl, h⟩ := bind_eq_ok.1 h
      cases h
      exact sharesSpace_of_fetchAll hl (List.mem_filter.1 hm).1 rfl
  | selectedPod h hm =>
    obtain ⟨view, _, h⟩ := bind_eq_ok.1 h
    split at h
    · cases h
      cases hm
    · exact sharesSpace_of_fetchAll h hm rfl
  -- a list that is tested afterwards only gets shorter by it
  | ingress h hm =>
    obtain ⟨ingresses, hl, h⟩ := bind_eq_ok.1 h
    exact sharesSpace_of_fetchAll hl (mem_of_keepViewed h hm) rfl
  | backend h hm =>
    obtain ⟨view, _, h⟩ := bind_eq_ok.1 h
    exact sharesSpace_of_fetchNamed_map h hm fun _ => rfl
  | selectingService h hm =>
    obtain ⟨services, hl, h⟩ := bind_eq_ok.1 h
    exact sharesSpace_of_fetchAll hl (mem_of_keepViewed h hm) rfl
  | dependency h hm =>
    obtain ⟨view, _, h⟩ := bind_eq_ok.1 h
    exact sharesSpace_of_fetchNamed_map h hm fun _ => rfl

/-! ## What is reached

With one step confined, the induction is on how an object is reached. It needs the start to have a
namespace: without one the first step leads anywhere. -/

variable {start : Object} {space : String}

theorem Reaches.namespaceName (hs : start.namespaceName = some space)
    (h : store.Reaches start object) : object.namespaceName = some space := by
  induction h with
  | start => exact hs
  | step _ hr hm ih => exact (finds_of_relations hr hm).sharesSpace space ih

end Store

/-- Whether a call mentions objects of one namespace only. -/
def Call.StaysIn (call : Call) (space : String) : Prop :=
  ∀ object ∈ call.objects, object.namespaceName = some space

theorem Store.Reports.staysIn {store : Store} {start : Object} {space : String} {call : Call}
    (hs : start.namespaceName = some space) (h : store.Reports start call) : call.StaysIn space :=
  fun _ hm => (h.reaches hm).namespaceName hs

/-! ## The walk

Only reached objects are pending at any point of the walk, so that its calls are among those that the visits
of reached objects make. -/

namespace Store

variable {store : Store} {start object : Object}

theorem reports_of_visitCalls {relations : List Relation} (h : store.Reaches start object)
    (hr : store.relations object = .ok relations) {call : Call}
    (hc : call ∈ visitCalls object relations) : store.Reports start call := by
  rcases List.mem_cons.1 hc with rfl | hc
  · exact .process h
  · obtain ⟨relation, hm, rfl⟩ := List.mem_map.1 hc
    exact .edge h hr hm

theorem reaches_of_related {relations : List Relation} (h : store.Reaches start object)
    (hr : store.relations object = .ok relations) {other : { o : Object // o ∈ store.objects }}
    (hm : other ∈ store.related object relations hr) : store.Reaches start other.val := by
  obtain ⟨⟨relation, hrel⟩, -, rfl⟩ := List.mem_map.1 hm
  exact h.step hr hrel

theorem reports_of_explore (visited : Keys)
    (pending : List { object : Object // object ∈ store.objects }) :
    (∀ object ∈ pending, store.Reaches start object.val) →
    ∀ call ∈ (store.explore visited pending).calls, store.Reports start call := by
  -- along the recursion, where all that is pending stays reached
  induction visited, pending using Store.explore.induct store with
  | case1 visited =>
    intro _ call hc
    rw [explore] at hc
    cases hc
  | case2 visited object hm rest hc ih =>
    intro hreach
    rw [explore_of_visited (Std.ExtTreeSet.mem_iff_contains.2 hc)]
    exact ih fun other ho => hreach other (List.mem_cons_of_mem _ ho)
  | case3 visited object hm rest hc error hr =>
    intro hreach call hcall
    have hnew : object.id ∉ visited := fun h => hc (Std.ExtTreeSet.mem_iff_contains.1 h)
    rw [explore_of_error hnew hr, List.mem_singleton] at hcall
    rw [hcall]
    exact .process (hreach _ List.mem_cons_self)
  | case4 visited object hm rest hc relations hr ih =>
    intro hreach call hcall
    have hnew : object.id ∉ visited := fun h => hc (Std.ExtTreeSet.mem_iff_contains.1 h)
    have hobject : store.Reaches start object := hreach _ List.mem_cons_self
    rw [explore_of_ok hnew hr] at hcall
    rcases List.mem_append.1 hcall with hcall | hcall
    · exact reports_of_visitCalls hobject hr hcall
    · -- what is pending from now on is related to the object, or was pending before
      refine ih (fun other ho => ?_) call hcall
      rcases List.mem_append.1 ho with ho | ho
      · exact reaches_of_related hobject hr ho
      · exact hreach other (List.mem_cons_of_mem _ ho)

theorem reports_of_walkFrom {visited : Keys} {call : Call}
    (hc : call ∈ (store.walkFrom visited start).calls) : store.Reports start call := by
  by_cases hm : start.id ∈ visited
  · rw [walkFrom, if_pos (Std.ExtTreeSet.mem_iff_contains.1 hm)] at hc
    cases hc
  cases hr : store.relations start with
  | error error =>
    rw [walkFrom_of_error hm hr, List.mem_singleton] at hc
    rw [hc]
    exact .process .start
  | ok relations =>
    rw [walkFrom_of_ok hm hr] at hc
    rcases List.mem_append.1 hc with hc | hc
    · exact reports_of_visitCalls .start hr hc
    · exact reports_of_explore _ _ (fun other ho => reaches_of_related .start hr ho) call hc

theorem reports_of_walk {cancelled : Bool} {call : Call}
    (hc : call ∈ (store.walk start cancelled).calls) : store.Reports start call := by
  cases cancelled with
  | true => cases hc
  | false =>
    have hc : call ∈ (store.walkFrom ∅ start).calls := hc
    exact reports_of_walkFrom hc

end Store

theorem Trace.mem_of_mem_upTo {trace : Trace} {refuse : Call → Option GraphError} {call : Call}
    (hc : call ∈ (trace.upTo refuse).calls) : call ∈ trace.calls := by
  rcases trace.upTo_cases refuse with heq | ⟨hp, -⟩
  · rwa [heq] at hc
  · exact hp.subset hc

/-! ## Visits side by side

A run can fail with any of its steps. Until then the invariant holds, and it says which objects are pending
and which relations are left to report; so the call of the last step is one about a reached object too. -/

namespace Exploration

variable {store : Store} {grouping : Bool} {start : Object} {state next : Exploration}

theorem Step.reports (hs : Step store grouping state next)
    (hinv : Invariant store grouping start state) {call : Call} (hc : call ∈ next.calls) :
    call ∈ state.calls ∨ store.Reports start call := by
  -- only entering and reporting make a call
  cases hs with
  | skip => exact Or.inl hc
  | @enter object rest _ hv =>
    rw [calls_tell, List.mem_append, List.mem_singleton] at hc
    refine hc.imp_right fun heq => ?_
    have hreach : store.Reaches start object := hinv.reached (.pending object) (by simp [hv])
    rw [heq]
    exact .process hreach
  | read => exact Or.inl hc
  | fail => exact Or.inl hc
  | @report object relation reported left rest _ hv =>
    rw [calls_tell, List.mem_append, List.mem_singleton] at hc
    refine hc.imp_right fun heq => ?_
    have hmem : Visit.reporting object reported (relation :: left) ∈ state.visits := by simp [hv]
    obtain ⟨_, hr, _⟩ := hinv.agrees _ hmem
    rw [heq]
    exact .edge (hinv.reached _ hmem) hr (by simp)
  | spread => exact Or.inl hc

theorem Run.reports (h : Run store grouping start state) {call : Call} (hc : call ∈ state.calls) :
    store.Reports start call := by
  -- induction on the steps of the run, of which each makes one call at most
  induction h with
  | refl => cases hc
  | tail hrun hs ih =>
    rcases hs.reports (Run.invariant hrun hs.failure_eq_none) hc with hc | hr
    · exact ih hc
    · exact hr

/-- **A walk stays in the namespace of its start.** Every object that is processed, and both objects of
every relation that is reported, are in it: in the walk with a receiver that may refuse any calls, also if
some identifiers were marked before, and at any moment of any run in which the visits take their steps side
by side, be it with or without a failure. -/
theorem stays_in_namespace (store : Store) (start : Object) (space : String)
    (hs : start.namespaceName = some space) :
    (∀ (cancelled : Bool) (refuse : Call → Option GraphError),
      ∀ call ∈ ((store.walk start cancelled).upTo refuse).calls, call.StaysIn space) ∧
    (∀ (visited : Keys) (refuse : Call → Option GraphError),
      ∀ call ∈ ((store.walkFrom visited start).upTo refuse).calls, call.StaysIn space) ∧
    ∀ (grouping : Bool) (state : Exploration), Run store grouping start state →
      ∀ call ∈ state.calls, call.StaysIn space := by
  refine ⟨fun cancelled refuse call hc => ?_, fun visited refuse call hc => ?_,
    fun grouping state h call hc => ?_⟩
  · exact (Store.reports_of_walk (Trace.mem_of_mem_upTo hc)).staysIn hs
  · exact (Store.reports_of_walkFrom (Trace.mem_of_mem_upTo hc)).staysIn hs
  · exact (h.reports hc).staysIn hs

/-- In another namespace there are the controller that the pod names, with its very identifier, and a service
that picks its labels. Both are passed over, by the walk and by a complete run. -/
theorem stays_in_namespace_of_tenants :
    let pod := Sample.pod "p1"
    pod.namespaceName = some "default" ∧
    (∃ other ∈ Sample.tenants.objects, other.namespaceName = some "other" ∧
      pod.isOwnedBy other = true) ∧
    ((Sample.tenants.walk pod false).upTo fun _ => none).calls =
      [.process pod, .edge Sample.service pod, .process Sample.service, .edge Sample.service pod] ∧
    (∀ call ∈ ((Sample.tenants.walk pod false).upTo fun _ => none).calls,
      call.StaysIn "default") ∧
    ∃ state, CompleteRun Sample.tenants true pod state ∧
      ∀ call ∈ state.calls, call.StaysIn "default" := by
  intro pod
  have hspace : pod.namespaceName = some "default" := rfl
  obtain ⟨hwalk, -, hruns⟩ := stays_in_namespace Sample.tenants pod "default" hspace
  have hbegin : Run Sample.tenants true pod (initial pod) := .refl
  obtain ⟨final, -, hfinal⟩ := hbegin.exists_complete
  have hpod : Sample.tenants.relations (Sample.pod "p1") = .ok [.incoming Sample.service] := rfl
  have hservice : Sample.tenants.relations Sample.service = .ok [.outgoing pod] := rfl
  have hmpod : pod ∈ Sample.tenants.objects := by simp [Sample.tenants, pod]
  have hmservice : Sample.service ∈ Sample.tenants.objects := by simp [Sample.tenants]
  have htrace : Sample.tenants.walk pod false =
      ⟨[.process pod, .edge Sample.service pod, .process Sample.service,
        .edge Sample.service pod], none⟩ := by
    show Sample.tenants.walkFrom ∅ pod = _
    rw [Store.walkFrom_of_ok (by decide +kernel) hpod]
    show (Sample.tenants.explore _ [⟨Sample.service, hmservice⟩]).after _ = _
    rw [Store.explore_of_ok (by decide +kernel) hservice]
    show ((Sample.tenants.explore _ [⟨pod, hmpod⟩]).after _).after _ = _
    rw [Store.explore_of_visited (by decide +kernel), Store.explore]
    rfl
  refine ⟨hspace, ?_, ?_, hwalk false _, final, hfinal, hruns true final hfinal.run⟩
  · exact ⟨Sample.abroad Sample.replicaSet, List.mem_cons_self, rfl, by decide +kernel⟩
  · rw [htrace]
    rfl

end Exploration

end ClusterGraph
