import ClusterGraph.Fallible
import ClusterGraph.Proofs.Config.Merge

/-!
# Settings that make sense

* **`validate_eq_ok_iff`** — the checks, made one after another with the first fault reported, accept exactly
  the settings that are `Valid`: a cache with room, a namespace, absolute prefixes, and plugins with a name of
  their own and a path.
* **`merge_default`** — valid settings laid over the defaults are the same settings again, since no plugin
  drives another one out.
-/

namespace ClusterGraph

/-- A plugin that has both a name and a path. -/
def PluginConfig.IsComplete (plugin : PluginConfig) : Prop :=
  Text.isBlankText plugin.name = false ∧ Text.isBlankText plugin.path = false

namespace Config

variable {config : Config} {plugins : List PluginConfig}

/-- Settings that make sense. -/
structure Valid (config : Config) : Prop where
  capacity : config.cacheCapacity ≠ 0
  space : Text.isBlankText config.defaultNamespace = false
  linkPrefix : config.linkPrefix.toList.head? = some '/'
  clusterLinkPrefix : config.clusterLinkPrefix.toList.head? = some '/'
  complete : ∀ plugin ∈ config.plugins, plugin.IsComplete
  distinct : (config.plugins.map (·.name)).Nodup

theorem validatePrefix_eq_ok_iff {key value : String} {u : Unit} :
    validatePrefix key value = .ok u ↔ value.toList.head? = some '/' := by
  unfold validatePrefix
  split <;> simp [*]

theorem validatePlugins_eq_ok_iff {seen : List String} {u : Unit} :
    validatePlugins seen plugins = .ok u ↔
      (∀ plugin ∈ plugins, plugin.IsComplete) ∧ (plugins.map (·.name)).Nodup ∧
        ∀ plugin ∈ plugins, plugin.name ∉ seen := by
  -- the names that were seen grow from plugin to plugin
  induction plugins generalizing seen with
  | nil => simp [validatePlugins]
  | cons plugin rest ih =>
    rw [validatePlugins, List.forall_mem_cons, List.forall_mem_cons, List.map_cons, List.nodup_cons]
    split
    · next hblank =>
      have hcomplete : ¬plugin.IsComplete := by
        rcases Bool.or_eq_true_iff.1 hblank with h | h <;> simp [PluginConfig.IsComplete, h]
      simp [hcomplete]
    · next hblank =>
      have hcomplete : plugin.IsComplete := by simpa [PluginConfig.IsComplete] using hblank
      split
      · next hseen =>
        have hseen : plugin.name ∈ seen := by simpa using hseen
        simp [hseen]
      · next hseen =>
        have hseen : plugin.name ∉ seen := by simpa using hseen
        -- the others must not have a name that was seen, nor that of the first
        have hothers : (∀ other ∈ rest, other.name ∉ plugin.name :: seen) ↔
            plugin.name ∉ rest.map (·.name) ∧ ∀ other ∈ rest, other.name ∉ seen := by
          simp only [List.mem_cons, not_or, List.mem_map, not_exists, not_and, forall_and]
        rw [ih, hothers]
        tauto

/-- The checks accept the settings that make sense. -/
theorem validate_eq_ok_iff {u : Unit} : config.validate = .ok u ↔ config.Valid := by
  rw [validate, check_eq_ok, check_eq_ok]
  simp only [bind_eq_ok, validatePrefix_eq_ok_iff, validatePlugins_eq_ok_iff, exists_const,
    Bool.not_eq_true]
  constructor
  · rintro ⟨hcapacity, hspace, hlink, hcluster, hcomplete, hdistinct, -⟩
    exact ⟨hcapacity, hspace, hlink, hcluster, hcomplete, hdistinct⟩
  · intro h
    exact ⟨h.capacity, h.space, h.linkPrefix, h.clusterLinkPrefix, h.complete, h.distinct,
      fun _ _ => List.not_mem_nil⟩

/-- Settings with no plugin twice lose nothing when they are laid over the defaults. -/
theorem merge_default (h : (config.plugins.map (·.name)).Nodup) :
    ({} : Config).merge config = config := by
  have hplugins : config.plugins.foldl addPlugin [] = config.plugins := by
    rw [foldl_addPlugin_eq, latest_eq_self h]
    rfl
  rw [merge, hplugins]

end Config

end ClusterGraph
