import ClusterGraph.Config.Document
import ClusterGraph.File.Path
import ClusterGraph.Text.Natural

/-!
Settings one by one.

Each setting has a key and can be shown and changed as a text. A change looks only at the text for the
setting itself; whether all settings make sense together is another question.
-/

namespace ClusterGraph

/-- A setting that has a key. -/
inductive Setting where
  | groupPods
  | defaultNamespace
  | cacheCapacity
  | linkPrefix
  | clusterLinkPrefix
  | plugins
  deriving DecidableEq, Repr, Inhabited

/-- Why a setting was not changed. -/
inductive SettingError where
  | unknownKey (key : String)
  | noFlag
  | noNumber (fault : Text.NumberFault)
  | zeroCapacity
  | noPluginList
  deriving DecidableEq, Repr, Inhabited

namespace SettingError

/-- The report of an error. -/
def report : SettingError → Report
  | unknownKey key => ⟨"Unknown configuration key: " ++ key, []⟩
  | noFlag =>
    ⟨"groupPods must be 'true' or 'false'", ["provided string was not `true` or `false`"]⟩
  | noNumber fault => ⟨"cache.capacity must be a number", [fault.message]⟩
  | zeroCapacity => ConfigFault.zeroCapacity.report
  | noPluginList =>
    ⟨"plugins must be a YAML list (e.g. [\x7bname: policy, path: /etc/policy.yaml\x7d])",
      [yamlFault]⟩

end SettingError

namespace Setting

/-- All settings in the order in which they are listed. -/
def all : List Setting :=
  [groupPods, defaultNamespace, cacheCapacity, linkPrefix, clusterLinkPrefix, plugins]

/-- The key of a setting. -/
def key : Setting → String
  | groupPods => "groupPods"
  | defaultNamespace => "defaultNamespace"
  | cacheCapacity => "cache.capacity"
  | linkPrefix => "links.prefix"
  | clusterLinkPrefix => "links.clusterPrefix"
  | plugins => "plugins"

/-- The setting with a key. -/
def ofKey (key : String) : Except SettingError Setting :=
  match all.find? (·.key == key) with
  | some setting => .ok setting
  | none => .error (.unknownKey key)

/-- The text of a setting. -/
def textIn (config : Config) : Setting → String
  | groupPods => if config.groupPods then "true" else "false"
  | defaultNamespace => config.defaultNamespace
  | cacheCapacity => toString config.cacheCapacity
  | linkPrefix => config.linkPrefix
  | clusterLinkPrefix => config.clusterLinkPrefix
  | plugins => PluginConfig.listText config.plugins

/-- The truth value that a text spells. -/
def flag? : String → Option Bool
  | "true" => some true
  | "false" => some false
  | _ => none

/-- The number of at most 64 bits that a text spells. -/
def size (text : String) : Except Text.NumberFault Nat :=
  Text.natural (Nat.pow 2 64) text

/-- The settings with one of them given by a text. -/
def change (config : Config) (value : String) : Setting → Except SettingError Config
  | groupPods =>
    match flag? value with
    | some flag => .ok { config with groupPods := flag }
    | none => .error .noFlag
  | defaultNamespace => .ok { config with defaultNamespace := value }
  | cacheCapacity =>
    match size value with
    | .error fault => .error (.noNumber fault)
    | .ok 0 => .error .zeroCapacity
    | .ok capacity => .ok { config with cacheCapacity := capacity }
  | linkPrefix => .ok { config with linkPrefix := value }
  | clusterLinkPrefix => .ok { config with clusterLinkPrefix := value }
  | plugins =>
    match PluginConfig.listOfText? value with
    | some list => .ok { config with plugins := list }
    | none => .error .noPluginList

end Setting

namespace Config

/-- The text of the setting with a key. -/
def get (config : Config) (key : String) : Except SettingError String := do
  return (← Setting.ofKey key).textIn config

/-- The settings with the one that has the given key changed. -/
def set (config : Config) (key value : String) : Except SettingError Config := do
  (← Setting.ofKey key).change config value

end Config

end ClusterGraph
