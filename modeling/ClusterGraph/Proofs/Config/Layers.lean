import ClusterGraph.Config.File
import ClusterGraph.Proofs.Config.Valid
import ClusterGraph.Proofs.Dict
import ClusterGraph.Proofs.File

/-!
# Settings in layers

Defaults, the settings file and the variables are laid over each other. Seen one setting at a time, this is
simple: each layer either says what a setting is or leaves it as it was.

* **`valueIn_change_of_ne`** — a change of one setting leaves every other one.
* **`valueIn_withEnvironment`** — each setting is what a variable says about it, or else as it was.
* **`load_eq_ok`** — with a valid settings file, the settings in force are those of the file with what the
  variables say.

A configuration is no more than its settings (`Setting.ext`), so that what holds of each of them holds of all.
-/

namespace ClusterGraph

namespace Setting

/-- What a setting can be. -/
abbrev Value : Setting → Type
  | groupPods => Bool
  | cacheCapacity => Nat
  | plugins => List PluginConfig
  | defaultNamespace | linkPrefix | clusterLinkPrefix => String

/-- What a setting is. -/
def valueIn (config : Config) : (setting : Setting) → setting.Value
  | groupPods => config.groupPods
  | defaultNamespace => config.defaultNamespace
  | cacheCapacity => config.cacheCapacity
  | linkPrefix => config.linkPrefix
  | clusterLinkPrefix => config.clusterLinkPrefix
  | plugins => config.plugins

variable {config changed : Config}

/-- Configurations with the same settings are the same. -/
theorem ext (h : ∀ setting : Setting, setting.valueIn config = setting.valueIn changed) :
    config = changed := by
  cases config
  cases changed
  simp only [Config.mk.injEq]
  exact ⟨h groupPods, h defaultNamespace, h cacheCapacity, h linkPrefix, h clusterLinkPrefix,
    h plugins⟩

theorem valueIn_change_of_ne {setting other : Setting} {value : String}
    (h : setting.change config value = .ok changed) (hne : other ≠ setting) :
    other.valueIn changed = other.valueIn config := by
  -- the cases are those of the readers of a value: a text is taken as it is, the others may fail
  cases setting with
  | defaultNamespace | linkPrefix | clusterLinkPrefix =>
    cases h
    cases other <;> first | rfl | exact absurd rfl hne
  | groupPods | plugins =>
    rw [change] at h
    split at h
    · cases h
      cases other <;> first | rfl | exact absurd rfl hne
    · cases h
  | cacheCapacity =>
    rw [change] at h
    split at h
    · cases h
    · cases h
    · cases h
      cases other <;> first | rfl | exact absurd rfl hne

end Setting

namespace Environment

/-! ## What the variables say

Three of the settings have a variable. What it says counts only if it can be read, and a variable that is
empty or no number says nothing. `withoutOverrides` takes exactly these variables away: it keeps those
that say where the settings file is. -/

/-- What the variables say about a setting. -/
def valueOf? (environment : Environment) : (setting : Setting) → Option setting.Value
  | .groupPods => (environment.get? "RESVIEW_GROUP_PODS").bind Setting.flag?
  | .defaultNamespace =>
    (environment.get? "RESVIEW_DEFAULT_NAMESPACE").bind (Option.guard (!·.isEmpty))
  | .cacheCapacity =>
    (environment.get? "RESVIEW_CACHE_CAPACITY").bind fun text => (Setting.size text).toOption
  | .linkPrefix | .clusterLinkPrefix | .plugins => none

/-- The variables that say something about settings. -/
def overrideNames : List String :=
  ["RESVIEW_GROUP_PODS", "RESVIEW_DEFAULT_NAMESPACE", "RESVIEW_CACHE_CAPACITY"]

/-- The variables without those that say something about settings. -/
def withoutOverrides (environment : Environment) : Environment :=
  overrideNames.foldl (fun rest name => rest.erase name) environment

theorem get?_withoutOverrides (environment : Environment) (name : String) :
    environment.withoutOverrides.get? name =
      if name ∈ overrideNames then none else environment.get? name := by
  simp only [withoutOverrides, overrideNames, List.foldl_cons, List.foldl_nil,
    Std.ExtTreeMap.get?_eq_getElem?, Dict.getElem?_erase, List.mem_cons, List.not_mem_nil]
  grind

theorem valueOf?_withoutOverrides (environment : Environment) (setting : Setting) :
    environment.withoutOverrides.valueOf? setting = none := by
  have hnone : ∀ name ∈ overrideNames, environment.withoutOverrides.get? name = none :=
    fun name hn => by rw [get?_withoutOverrides, if_pos hn]
  cases setting with
  | groupPods => rw [valueOf?, hnone _ (by decide), Option.bind_none]
  | defaultNamespace => rw [valueOf?, hnone _ (by decide), Option.bind_none]
  | cacheCapacity => rw [valueOf?, hnone _ (by decide), Option.bind_none]
  | linkPrefix | clusterLinkPrefix | plugins => rfl

/-- The settings file stays where it is. -/
theorem configPath_withoutOverrides (environment : Environment) :
    environment.withoutOverrides.configPath = environment.configPath := by
  have hkeep : ∀ name, name ∉ overrideNames →
      environment.withoutOverrides.get? name = environment.get? name := fun name hn => by
    rw [get?_withoutOverrides, if_neg hn]
  have hdirectory := hkeep configDirectoryName (by decide)
  have huser := hkeep "XDG_CONFIG_HOME" (by decide)
  have hhome := hkeep "HOME" (by decide)
  simp only [configPath, configDirectory, userConfigDirectory, home, hdirectory, huser, hhome]

end Environment

namespace Config

variable {environment : Environment} {files : FileTree} {path : String} {config : Config}

/-! ## One layer over another

The variables are laid over the settings one after another. Each replaces one setting and keeps the
others, so that a setting is decided by its own variable whatever the order of the layers. -/

theorem valueIn_override_of_kept {α : Type} {name : String} {value? : String → Option α}
    {replace : α → Config → Config} {setting : Setting}
    (h : ∀ value config, setting.valueIn (replace value config) = setting.valueIn config) :
    setting.valueIn (config.override environment name value? replace) = setting.valueIn config := by
  rw [override]
  split
  · rw [h]
  · rfl

theorem valueIn_override_of_replaced (setting : Setting) {name : String}
    {value? : String → Option setting.Value} {replace : setting.Value → Config → Config}
    (h : ∀ value config, setting.valueIn (replace value config) = value) :
    setting.valueIn (config.override environment name value? replace) =
      ((environment.get? name).bind value?).getD (setting.valueIn config) := by
  rw [override]
  split
  · next value hv => rw [h, hv, Option.getD_some]
  · next hv => rw [hv, Option.getD_none]

/-- A setting is what a variable says about it, or else as it was. -/
theorem valueIn_withEnvironment (environment : Environment) (config : Config) (setting : Setting) :
    setting.valueIn (config.withEnvironment environment) =
      (environment.valueOf? setting).getD (setting.valueIn config) := by
  rw [withEnvironment]
  -- for each setting the layer that replaces it, between layers that keep it
  cases setting with
  | groupPods =>
    rw [valueIn_override_of_kept, valueIn_override_of_kept]
    · exact valueIn_override_of_replaced .groupPods fun _ _ => rfl
    all_goals exact fun _ _ => rfl
  | defaultNamespace =>
    rw [valueIn_override_of_kept]
    · rw [valueIn_override_of_replaced .defaultNamespace, valueIn_override_of_kept]
      · rfl
      all_goals exact fun _ _ => rfl
    · exact fun _ _ => rfl
  | cacheCapacity =>
    rw [valueIn_override_of_replaced .cacheCapacity, valueIn_override_of_kept,
      valueIn_override_of_kept]
    · rfl
    all_goals exact fun _ _ => rfl
  | linkPrefix | clusterLinkPrefix | plugins =>
    rw [valueIn_override_of_kept, valueIn_override_of_kept, valueIn_override_of_kept]
    · rfl
    all_goals exact fun _ _ => rfl

theorem withEnvironment_withoutOverrides (environment : Environment) (config : Config) :
    config.withEnvironment environment.withoutOverrides = config :=
  Setting.ext fun setting => by
    rw [valueIn_withEnvironment, Environment.valueOf?_withoutOverrides, Option.getD_none]

theorem contains_of_ofFile (h : ofFile files path = .ok config) : files.contains path = true := by
  obtain ⟨text, hread, _⟩ := bind_eq_ok.1 h
  exact FileTree.contains_of_read (mapError_eq_ok.1 hread)

/-- The settings of a valid file are in force, apart from what the variables say. -/
theorem load_eq_ok (h : ofFile files environment.configPath = .ok config) (hv : config.Valid) :
    load ⟨files, environment⟩ = .ok (config.withEnvironment environment) := by
  simp only [load, loadFrom, contains_of_ofFile h, h, if_true, bind, Except.bind, pure, Except.pure,
    merge_default hv.distinct]

/-- A valid settings file is found valid where no variable says anything about settings. -/
theorem validateFiles_withoutOverrides (h : ofFile files environment.configPath = .ok config)
    (hv : config.Valid) :
    validateFiles ⟨files, environment.withoutOverrides⟩ = .ok () := by
  have hpath := environment.configPath_withoutOverrides
  have hload : load ⟨files, environment.withoutOverrides⟩ = .ok config := by
    rw [load_eq_ok (by rw [hpath]; exact h) hv, withEnvironment_withoutOverrides]
  have hcheck : config.validate = .ok () := validate_eq_ok_iff.2 hv
  simp only [validateFiles, hpath, contains_of_ofFile h, h, hload, hcheck, if_true, mapError_ok,
    bind, Except.bind]

end Config

end ClusterGraph
