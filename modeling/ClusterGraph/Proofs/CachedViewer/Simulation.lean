import ClusterGraph.Proofs.CachedViewer.Sharing

/-!
# Calls one at a time

Between two calls of a cached viewer nothing moves: a call is a few steps at once, and settling is all
steps of all builds, one build after another. So whatever calls are made, in whatever order, they are a
run of the background (`Reachable.exists_run`), and what holds of every run holds of them
(`component_eq`).
-/

namespace ClusterGraph.CachedViewer

/-- What comes of a new cached viewer by calls. -/
inductive Reachable (viewer : Viewer) (capacity : Nat) : CachedViewer → Prop where
  | new : Reachable viewer capacity { viewer, cache := .empty capacity }
  | refresh {cached : CachedViewer} (h : Reachable viewer capacity cached) (object : Object) :
      Reachable viewer capacity (cached.refresh object).2
  | component {cached : CachedViewer} (h : Reachable viewer capacity cached) (object : Object) :
      Reachable viewer capacity (cached.component object).2
  | settle {cached : CachedViewer} (h : Reachable viewer capacity cached) :
      Reachable viewer capacity cached.settle
  | buildNow {cached : CachedViewer} (h : Reachable viewer capacity cached) (object : Object)
      (cancelled : Bool) : Reachable viewer capacity (cached.buildNow object cancelled).2
  | shutdown {cached : CachedViewer} (h : Reachable viewer capacity cached) :
      Reachable viewer capacity cached.shutdown

/-- A cached viewer is a state of the background in which no build has taken a step, without the origins
of the cached graphs. -/
structure Tracks (viewer : Viewer) (cached : CachedViewer) (state : Background) : Prop where
  viewer_eq : cached.viewer = viewer
  cache : state.cache.map (·.graph) = cached.cache
  tasks : state.tasks = (cached.pending.map (Task.mk · .building) : List Task)
  shutDown : state.shutDown = cached.shutDown
  invariant : state.Invariant viewer

variable {viewer : Viewer} {capacity : Nat} {cached : CachedViewer} {state : Background}
  {object : Object} {rest : List Object}

theorem Tracks.fst_get (h : Tracks viewer cached state) (key : String) :
    (cached.cache.get key).1 = (state.cache.value? key).map (·.graph) := by
  rw [Cache.fst_get, ← h.cache, Cache.value?_map]

theorem Tracks.snd_get (h : Tracks viewer cached state) (key : String) :
    (state.cache.get key).2.map (·.graph) = (cached.cache.get key).2 := by
  rw [← h.cache, Cache.get_map]

theorem Tracks.pendingKeys (h : Tracks viewer cached state) :
    (cached.pendingKeys : Multiset String) = state.pending.val := by
  have hkeys : cached.pendingKeys = (cached.pending.map (Task.mk · .building)).map Task.key := by
    rw [List.map_map]
    rfl
  rw [← h.invariant.keys, h.tasks, hkeys]
  rfl

theorem Tracks.mem_pendingKeys_iff (h : Tracks viewer cached state) {key : String} :
    key ∈ cached.pendingKeys ↔ key ∈ state.pending := by
  rw [← Finset.mem_val, ← h.pendingKeys, Multiset.mem_coe]

theorem Tracks.nodup_pendingKeys (h : Tracks viewer cached state) : cached.pendingKeys.Nodup := by
  rw [← Multiset.coe_nodup, h.pendingKeys]
  exact state.pending.nodup

/-! ## One call

Each call is matched with steps of the background. The pending builds are a list here and a multiset
there, in one order or another, and the graphs lose their origins (`Proofs/Cache` says that the cache does
not mind). -/

theorem Tracks.refresh (h : Tracks viewer cached state) (object : Object) :
    (cached.refresh object).1 = (state.refresh object).1 ∧
      Tracks viewer (cached.refresh object).2 (state.refresh object).2 := by
  have hinvariant := h.invariant.refresh object
  unfold CachedViewer.refresh
  unfold Background.refresh at hinvariant ⊢
  by_cases hp : object.cacheKey ∈ state.pending
  · rw [if_pos hp, if_pos (List.contains_iff_mem.2 (h.mem_pendingKeys_iff.2 hp))]
    exact ⟨rfl, h⟩
  · have hnew : ¬ cached.pendingKeys.contains object.cacheKey = true := fun hc =>
      hp (h.mem_pendingKeys_iff.1 (List.contains_iff_mem.1 hc))
    rw [if_neg hp] at hinvariant
    rw [if_neg hp, if_neg hnew]
    refine ⟨rfl, h.viewer_eq, h.cache, ?_, h.shutDown, hinvariant⟩
    rw [h.tasks, Multiset.cons_coe, Multiset.coe_eq_coe]
    simpa using (List.perm_append_singleton _ _).symm

/-- A call of `component` finds a graph, or it finds none and answers with the placeholder. -/
theorem Tracks.component (h : Tracks viewer cached state) (object : Object) :
    ∃ events next, Background.Run viewer state events next ∧
      Tracks viewer (cached.component object).2 next ∧
      ((∃ built, .found object built ∈ events ∧ (cached.component object).1 = built.graph) ∨
        (cached.component object).1 = .placeholder object) := by
  have hfst := h.fst_get object.cacheKey
  have hsnd := h.snd_get object.cacheKey
  unfold CachedViewer.component
  generalize cached.cache.get object.cacheKey = answer at hfst hsnd ⊢
  obtain ⟨found, cache⟩ := answer
  -- the background looks into the cache with its origins, the viewer into the one without them
  cases hc : state.cache.value? object.cacheKey with
  | some built =>
    rw [hc] at hfst
    obtain rfl : found = some built.graph := hfst
    have hstep : Background.Step viewer state _ _ := .find hc
    refine ⟨_, _, Background.Run.start.step hstep, ?_, .inl ⟨built, List.mem_singleton_self _, rfl⟩⟩
    exact ⟨h.viewer_eq, hsnd, h.tasks, h.shutDown, h.invariant.step hstep⟩
  | none =>
    rw [hc] at hfst
    obtain rfl : found = none := hfst
    have hstep : Background.Step viewer state _ _ := .miss hc
    -- a look-up in vain and the refresh after it are two steps, of which the second one takes the caller
    -- back
    have hmissed : Tracks viewer { cached with cache }
        { state with cache := (state.cache.get object.cacheKey).2 } :=
      ⟨h.viewer_eq, hsnd, h.tasks, h.shutDown, (h.invariant.step hstep).keys,
        (h.invariant.step hstep).cached, h.invariant.built⟩
    exact ⟨_, _, (Background.Run.start.step hstep).step (.load rfl), (hmissed.refresh object).2, .inr rfl⟩

/-- The first build under way leaves the others behind. -/
theorem filter_pending (h : cached.pending = object :: rest) (hn : cached.pendingKeys.Nodup) :
    cached.pending.filter (·.cacheKey != object.cacheKey) = rest := by
  unfold CachedViewer.pendingKeys at hn
  rw [h, List.map_cons, List.nodup_cons] at hn
  rw [h, List.filter_cons_of_neg (by simp)]
  refine List.filter_eq_self.2 fun other ho => ?_
  have hne : other.cacheKey ≠ object.cacheKey := fun heq => hn.1 (List.mem_map.2 ⟨other, ho, heq⟩)
  simpa using hne

/-- The first build under way comes to its end: its visit, then the cache, then its key. -/
theorem Tracks.finish (h : Tracks viewer cached state) (hp : cached.pending = object :: rest) :
    (cached.finish object).pending = rest ∧
    ∃ events next, Background.Run viewer state events next ∧
      Tracks viewer (cached.finish object) next := by
  have hrest := filter_pending hp h.nodup_pendingKeys
  have htasks : state.tasks =
      ⟨object, .building⟩ ::ₘ ((rest.map (Task.mk · .building) : List Task) : Multiset Task) := by
    rw [h.tasks, hp, List.map_cons, Multiset.cons_coe]
  have hresult : Background.Results viewer state.shutDown object (some (cached.build object)) :=
    ⟨cached.shutDown, fun hc => h.shutDown.trans hc, by rw [build, h.viewer_eq]⟩
  unfold CachedViewer.finish
  -- a graph takes a step more than a failure
  cases hb : cached.build object with
  | ok graph =>
    rw [hb] at hresult
    have hrun := Background.run_of_graph htasks hresult
    refine ⟨hrest, _, _, hrun, h.viewer_eq, ?_, ?_, h.shutDown, h.invariant.run hrun⟩
    · rw [← h.cache]
      exact (Cache.insert_map BuiltGraph.graph _ _ ⟨object, graph⟩).symm
    · rw [hrest]
  | error error =>
    rw [hb] at hresult
    have hrun := Background.run_of_failure htasks hresult
    refine ⟨hrest, _, _, hrun, h.viewer_eq, h.cache, ?_, h.shutDown, h.invariant.run hrun⟩
    rw [hrest]

/-! ## All calls

Settling ends the builds one after another, by induction on the list of the pending ones. Every other call
is a bounded number of steps, and a sequence of calls is the run of all of them. -/

theorem Tracks.settle (h : Tracks viewer cached state) :
    ∃ events next, Background.Run viewer state events next ∧ Tracks viewer cached.settle next := by
  unfold CachedViewer.settle
  generalize hp : cached.pending = pending
  -- the first build ends, and the others are left as they were
  induction pending generalizing cached state with
  | nil => exact ⟨_, _, .start, h⟩
  | cons object rest ih =>
    obtain ⟨hrest, events, middle, hrun, hmiddle⟩ := h.finish hp
    obtain ⟨more, next, hmore, hnext⟩ := ih hmiddle hrest
    exact ⟨_, next, hrun.trans hmore, hnext⟩

theorem Tracks.shutdown (h : Tracks viewer cached state) :
    Tracks viewer cached.shutdown { state with shutDown := true } :=
  ⟨h.viewer_eq, h.cache, h.tasks, rfl, h.invariant.step .shutDown⟩

/-- All calls, in whatever order, are a run of the background. -/
theorem Reachable.exists_run (h : Reachable viewer capacity cached) :
    ∃ events state, Background.Run viewer (.initial capacity) events state ∧
      Tracks viewer cached state := by
  -- by the last call, which adds its steps to the run so far
  induction h with
  | new =>
    exact ⟨_, _, .start, rfl, Cache.map_empty _ _, rfl, rfl, Background.invariant_initial _ _⟩
  | refresh _ object ih =>
    obtain ⟨events, state, hrun, ht⟩ := ih
    exact ⟨_, _, hrun.step (.refresh object), (ht.refresh object).2⟩
  | component _ object ih =>
    obtain ⟨events, state, hrun, ht⟩ := ih
    obtain ⟨more, next, hmore, hnext, -⟩ := ht.component object
    exact ⟨_, next, hrun.trans hmore, hnext⟩
  | settle _ ih =>
    obtain ⟨events, state, hrun, ht⟩ := ih
    obtain ⟨more, next, hmore, hnext⟩ := ht.settle
    exact ⟨_, next, hrun.trans hmore, hnext⟩
  | buildNow _ object cancelled ih =>
    obtain ⟨events, state, hrun, ht⟩ := ih
    obtain ⟨more, next, hmore, hnext⟩ := ht.settle
    exact ⟨_, next, hrun.trans hmore, hnext⟩
  | shutdown _ ih =>
    obtain ⟨events, state, hrun, ht⟩ := ih
    exact ⟨_, _, hrun.step .shutDown, ht.shutdown⟩

/-- What a call of `component` answers with: the placeholder, or a graph that was built around an object
with the same identifier. -/
theorem component_eq (h : Reachable viewer capacity cached) (b : Object) :
    (cached.component b).1 = .placeholder b ∨
      ∃ a, a.id = b.id ∧ viewer.visit a false = .ok (cached.component b).1 := by
  obtain ⟨events, state, hrun, ht⟩ := h.exists_run
  obtain ⟨more, next, hmore, -, ⟨built, hfound, hanswer⟩ | hanswer⟩ := ht.component b
  · obtain ⟨hid, hv⟩ := (hrun.trans hmore).found_origin (List.mem_append_right _ hfound)
    rw [hanswer]
    exact .inr ⟨built.origin, hid, hv⟩
  · exact .inl hanswer

/-- A refresh is refused if and only if a build of an object with the same identifier is under way. -/
theorem refresh_refused_iff (h : Reachable viewer capacity cached) (b : Object) :
    (cached.refresh b).1 = false ↔ ∃ a ∈ cached.pending, a.id = b.id := by
  obtain ⟨events, state, hrun, ht⟩ := h.exists_run
  rw [(ht.refresh b).1, hrun.refused_iff, ht.tasks]
  simp

end ClusterGraph.CachedViewer
