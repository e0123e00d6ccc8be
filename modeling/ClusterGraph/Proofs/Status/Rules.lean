import Mathlib.Data.List.Induction
import ClusterGraph.Proofs.Sample
import ClusterGraph.Status.Resolver

/-!
# Rules in plugins

Overlays are merged for the rules of a plugin, for the plugins, and with the status by the table. It is one
merge all the same, and how the rules are cut into plugins does not count:

* **`Overlay.mergeAll_cons`**, **`Overlay.mergeAll_append`**, **`ObjectStatus.apply_mergeAll`** — merging is
  associative with the empty overlay as its unit, and putting overlays on a status one after another is
  putting their merge on it.
* **`StatusRule.concerns_iff_fits`** — the test by group and kind, which comes first, hides no rule whose
  conditions an object meets.
* **`Plugin.overlayOf_ofSources`** — so several plugins give what one plugin with all of their rules would
  give.
* **`status_of_fitting_rules`** — the last grade that a fitting rule gives, and the remarks of all of them
  in their order.
-/

namespace ClusterGraph

/-! ## Merging

Of an overlay only the grade can be overridden; remarks are added. The lemmas say that it does not matter
whether overlays are merged first or put on a status one by one. -/

namespace Overlay

@[simp] theorem merge_empty (overlay : Overlay) : overlay.merge {} = overlay := by
  simp [merge]

instance : Std.Associative merge := ⟨merge_assoc⟩

/-- The overlay that has the effect of several, one after another. -/
def mergeAll (overlays : List Overlay) : Overlay :=
  overlays.foldl merge {}

theorem mergeAll_append (overlays more : List Overlay) :
    mergeAll (overlays ++ more) = (mergeAll overlays).merge (mergeAll more) := by
  have hassoc : more.foldl merge ((mergeAll overlays).merge {}) =
      (mergeAll overlays).merge (more.foldl merge {}) := List.foldl_assoc
  rw [mergeAll, List.foldl_append]
  rwa [merge_empty] at hassoc

theorem mergeAll_singleton (overlay : Overlay) : mergeAll [overlay] = overlay :=
  empty_merge overlay

theorem mergeAll_cons (overlay : Overlay) (rest : List Overlay) :
    mergeAll (overlay :: rest) = overlay.merge (mergeAll rest) := by
  rw [← List.singleton_append, mergeAll_append, mergeAll_singleton]

/-- The last grade that is given counts, and all remarks stay. -/
theorem mergeAll_eq (overlays : List Overlay) :
    mergeAll overlays =
      ⟨(overlays.filterMap (·.status)).getLast?, overlays.flatMap (·.details)⟩ := by
  -- from the last overlay back, since it is the one that decides the grade
  induction overlays using List.reverseRecOn with
  | nil => rfl
  | append_singleton overlays overlay ih =>
    rw [mergeAll_append, mergeAll_singleton, ih, merge, List.filterMap_append, List.flatMap_append]
    cases hs : overlay.status <;> simp [hs]

end Overlay

theorem ObjectStatus.apply_mergeAll (status : ObjectStatus) (overlays : List Overlay) :
    status.apply (Overlay.mergeAll overlays) = overlays.foldl ObjectStatus.apply status := by
  induction overlays generalizing status with
  | nil => simp [Overlay.mergeAll, ObjectStatus.apply]
  | cons overlay rest ih =>
    rw [Overlay.mergeAll_cons, ObjectStatus.apply_merge, List.foldl_cons, ih]

/-- Under overlays a status keeps its own grade only where none of them gives one, and its own remarks come
first. -/
theorem ObjectStatus.foldl_apply_eq (status : ObjectStatus) (overlays : List Overlay) :
    overlays.foldl ObjectStatus.apply status =
      ⟨(overlays.filterMap (·.status)).getLast?.getD status.status,
        status.details ++ overlays.flatMap (·.details)⟩ := by
  rw [← ObjectStatus.apply_mergeAll, Overlay.mergeAll_eq]
  rfl

/-! ## Rules

A rule gives its overlay to the objects that meet its conditions. A test by group and kind alone decides
whether a plugin is asked at all, and it is implied by the conditions. -/

namespace StatusRule

/-- The object meets all conditions that the rule gives. -/
structure Fits (rule : StatusRule) (object : Object) : Prop where
  kind : object.kind = rule.kind
  apiVersion : ∀ version ∈ rule.apiVersion, object.apiVersion = version
  space : ∀ space ∈ rule.namespaceName, object.namespaceName = some space
  name : ∀ name ∈ rule.name, object.nameAny = name

variable {rule : StatusRule} {object : Object}

/-- A rule with the API version of an object has its group as well. -/
theorem Fits.matchesType (h : rule.Fits object) : rule.matchesType object.groupKind = true := by
  have hgroup : rule.apiVersion.all (GroupKind.ofApiVersion · rule.kind == object.groupKind) := by
    rw [Option.all_eq_true]
    intro version hv
    rw [← h.apiVersion version hv, ← h.kind]
    exact beq_self_eq_true _
  rw [StatusRule.matchesType, hgroup, ← h.kind]
  simp [Object.groupKind]

theorem concerns_iff_fits : rule.concerns object = true ↔ rule.Fits object := by
  constructor
  · intro h
    simp only [concerns, matchesType, Bool.and_eq_true, Option.all_eq_true, beq_iff_eq] at h
    obtain ⟨⟨⟨⟨hk, -⟩, hv⟩, hs⟩, hn⟩ := h
    exact ⟨hk.symm, fun version hm => (hv version hm).symm, hs, hn⟩
  · intro h
    have htype : rule.matchesType object.groupKind = true := h.matchesType
    simp only [concerns, htype, Bool.and_eq_true, Option.all_eq_true, beq_iff_eq, true_and]
    exact ⟨⟨fun version hm => (h.apiVersion version hm).symm, h.space⟩, h.name⟩

instance : Decidable (rule.Fits object) :=
  decidable_of_iff _ concerns_iff_fits

/-- The rules whose conditions an object meets, in their order. -/
def fitting (rules : List StatusRule) (object : Object) : List StatusRule :=
  rules.filter (·.Fits object)

theorem overlayOf_eq (rules : List StatusRule) (object : Object) :
    overlayOf rules object = Overlay.mergeAll ((fitting rules object).map overlay) := by
  have hfilter : rules.filter (·.concerns object) = fitting rules object :=
    List.filter_congr fun rule _ => by simp [← concerns_iff_fits]
  rw [overlayOf, hfilter, Overlay.mergeAll]

theorem overlayOf_append (rules more : List StatusRule) (object : Object) :
    overlayOf (rules ++ more) object = (overlayOf rules object).merge (overlayOf more object) := by
  simp only [overlayOf_eq, fitting, List.filter_append, List.map_append, Overlay.mergeAll_append]

/-- Where no rule can concern objects of the group and kind, there is nothing to be added. -/
theorem overlayOf_of_not_any {rules : List StatusRule}
    (h : ¬ rules.any (·.matchesType object.groupKind) = true) : overlayOf rules object = {} := by
  have hnone : fitting rules object = [] := by
    refine List.filter_eq_nil_iff.2 fun rule hm hfits => h ?_
    have hfits : rule.Fits object := of_decide_eq_true hfits
    exact List.any_eq_true.2 ⟨rule, hm, hfits.matchesType⟩
  rw [overlayOf_eq, hnone]
  rfl

end StatusRule

/-! ## Plugins

A plugin stands for a named list of rules, and the plugins of a resolver for the list of all their rules.
The fold over plugins becomes one over rules by associativity, whether or not a plugin is asked. -/

namespace Plugin

/-- The plugins of several named lists of rules. -/
def ofSources (sources : List (String × List StatusRule)) : List Plugin :=
  sources.map fun source => ofRules source.1 source.2

theorem ofSources_cons (source : String × List StatusRule)
    (rest : List (String × List StatusRule)) :
    ofSources (source :: rest) = ofRules source.1 source.2 :: ofSources rest := rfl

/-- What plugins that are asked one after another add to what has been merged by then. -/
theorem foldlM_ofSources (sources : List (String × List StatusRule)) (object : Object)
    (merged : Overlay) :
    ((ofSources sources).filter (·.handles object.groupKind)).foldlM
      (fun merged plugin => do pure (merged.merge (← plugin.overlay object))) merged =
      (.ok (merged.merge (StatusRule.overlayOf (sources.flatMap (·.2)) object)) :
        Except PluginError Overlay) := by
  -- induction on the plugins, with whatever has been merged before as the start
  induction sources generalizing merged with
  | nil =>
    have hnone : StatusRule.overlayOf [] object = {} := rfl
    rw [List.flatMap_nil, hnone, Overlay.merge_empty]
    rfl
  | cons source rest ih =>
    have hrules : StatusRule.overlayOf ((source :: rest).flatMap (·.2)) object =
        (StatusRule.overlayOf source.2 object).merge
          (StatusRule.overlayOf (rest.flatMap (·.2)) object) := by
      rw [List.flatMap_cons, StatusRule.overlayOf_append]
    rw [ofSources_cons, List.filter_cons, hrules, ← Overlay.merge_assoc, ← ih]
    by_cases hh : (ofRules source.1 source.2).handles object.groupKind = true
    · rw [if_pos hh, List.foldlM_cons]
      rfl
    · -- the plugin is not asked, and it has nothing to say
      rw [if_neg hh, StatusRule.overlayOf_of_not_any hh, Overlay.merge_empty]

theorem overlayOf_ofSources (sources : List (String × List StatusRule)) (object : Object) :
    overlayOf (ofSources sources) object =
      .ok (StatusRule.overlayOf (sources.flatMap (·.2)) object) := by
  rw [overlayOf, foldlM_ofSources, Overlay.empty_merge]

end Plugin

namespace Resolver

/-- The status that plugins with given rules leave: the one by the table, with the overlays of the fitting
rules put on it one after another. -/
theorem status_withPlugins_ofSources (resolver : Resolver)
    (sources : List (String × List StatusRule)) (object : Object) :
    (resolver.withPlugins (Plugin.ofSources sources)).status object =
      if object.isEmpty then .error .missingObject
      else (resolver.builtin object).map fun status =>
        (StatusRule.fitting (sources.flatMap (·.2)) object).foldl
          (fun status rule => status.apply rule.overlay) status := by
  have hbuiltin : (resolver.withPlugins (Plugin.ofSources sources)).builtin object =
      resolver.builtin object := rfl
  by_cases he : object.isEmpty = true
  · rw [status, if_pos he, if_pos he]
  · rw [status, if_neg he, if_neg he, hbuiltin]
    cases resolver.builtin object with
    | error error => rfl
    | ok status =>
      show ((Plugin.overlayOf (Plugin.ofSources sources) object).mapError _ >>= fun overlay =>
        pure (status.apply overlay)) = _
      rw [Plugin.overlayOf_ofSources, StatusRule.overlayOf_eq]
      show Except.ok (status.apply _) = Except.ok _
      rw [ObjectStatus.apply_mergeAll, List.foldl_map]

/-- **Plugins add what the fitting rules among all of theirs say, in one row.** Their overlay is the merge of
these rules: the last grade that one of them gives, and all of their remarks. The status is the one by the
table with the rules put on it one after another: the grade of the table where no rule gives one, and the
remarks of the table before those of the rules. So it does not matter how a list of rules is cut into
plugins. -/
theorem status_of_fitting_rules (resolver : Resolver) (sources : List (String × List StatusRule))
    (object : Object) :
    let plugins := Plugin.ofSources sources
    let fitting := StatusRule.fitting (sources.flatMap (·.2)) object
    Plugin.overlayOf plugins object = .ok (Overlay.mergeAll (fitting.map StatusRule.overlay)) ∧
    Overlay.mergeAll (fitting.map StatusRule.overlay) =
      ⟨(fitting.filterMap (·.status)).getLast?,
        fitting.flatMap fun rule => rule.details.map .text⟩ ∧
    ((resolver.withPlugins plugins).status object =
      if object.isEmpty then .error .missingObject
      else (resolver.builtin object).map fun status =>
        fitting.foldl (fun status rule => status.apply rule.overlay) status) ∧
    ((resolver.withPlugins plugins).status object =
      if object.isEmpty then .error .missingObject
      else (resolver.builtin object).map fun status =>
        ⟨(fitting.filterMap (·.status)).getLast?.getD status.status,
          status.details ++ fitting.flatMap fun rule => rule.details.map .text⟩) ∧
    ∀ others : List (String × List StatusRule),
      others.flatMap (·.2) = sources.flatMap (·.2) →
      (resolver.withPlugins (Plugin.ofSources others)).status object =
        (resolver.withPlugins plugins).status object := by
  intro plugins fitting
  refine ⟨?_, ?_, status_withPlugins_ofSources resolver sources object, ?_, fun others h => ?_⟩
  · rw [Plugin.overlayOf_ofSources, StatusRule.overlayOf_eq]
  · rw [Overlay.mergeAll_eq, List.filterMap_map, List.flatMap_map]
    rfl
  · -- what is left is the fold over the rules, which are put on a status as their overlays
    rw [status_withPlugins_ofSources]
    refine if_congr Iff.rfl rfl (congrArg (Except.map · _) (funext fun status => ?_))
    rw [← List.foldl_map, ObjectStatus.foldl_apply_eq, List.filterMap_map, List.flatMap_map]
    rfl
  · rw [status_withPlugins_ofSources, status_withPlugins_ofSources, h]

/-- Four rules in three plugins, of which the second one is not asked about a pod, and the same rules in
one. -/
theorem status_of_fitting_rules_of_cut :
    let sources := [("early", Sample.rules.take 1), ("idle", (Sample.rules.drop 1).take 1),
      ("late", Sample.rules.drop 2)]
    let others := [("all", Sample.rules)]
    let resolver := standard Sample.lone
    Plugin.overlayOf (Plugin.ofSources sources) (Sample.pod "p1") =
      .ok ⟨some .warning, [.text "pinned", .text "first"]⟩ ∧
    others.flatMap (·.2) = sources.flatMap (·.2) ∧
    (resolver.withPlugins (Plugin.ofSources others)).status (Sample.pod "p1") =
      (resolver.withPlugins (Plugin.ofSources sources)).status (Sample.pod "p1") := by
  intro sources others resolver
  have hcut : others.flatMap (·.2) = sources.flatMap (·.2) := rfl
  obtain ⟨hoverlay, hmerge, -, -, hothers⟩ :=
    status_of_fitting_rules resolver sources (Sample.pod "p1")
  refine ⟨?_, hcut, hothers others hcut⟩
  rw [hoverlay, hmerge]
  decide +kernel

end Resolver

end ClusterGraph
