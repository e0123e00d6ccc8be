import ClusterGraph.Json.Basic
import ClusterGraph.Report
import ClusterGraph.Text.Pieces

/-!
Settings.

All settings have defaults. `Config.validate` finds the first setting whose value makes no sense;
`Config.merge` lays one configuration over another.
-/

namespace ClusterGraph

/-- A file with status rules, and the name of the plugin that uses it. -/
structure PluginConfig where
  name : String
  path : String
  deriving DecidableEq, Repr, Inhabited

/-- A plugin as a document. -/
def PluginConfig.toJson (plugin : PluginConfig) : Json :=
  .obj [("name", .str plugin.name), ("path", .str plugin.path)]

/-- All settings. -/
structure Config where
  groupPods : Bool := true
  defaultNamespace : String := "default"
  cacheCapacity : Nat := 64
  linkPrefix : String := "/overview"
  clusterLinkPrefix : String := "/cluster-overview"
  plugins : List PluginConfig := []
  deriving DecidableEq, Repr, Inhabited

/-- Why settings make no sense. -/
inductive ConfigFault where
  | zeroCapacity
  | blankNamespace
  | relativePrefix (key value : String)
  | incompletePlugin
  | repeatedPlugin (name : String)
  deriving DecidableEq, Repr, Inhabited

namespace ConfigFault

/-- The wording of a fault. -/
def message : ConfigFault → String
  | zeroCapacity => "cache.capacity must be greater than 0"
  | blankNamespace => "defaultNamespace must not be empty"
  | relativePrefix key value => key ++ " must start with '/', got '" ++ value ++ "'"
  | incompletePlugin => "plugins entries require a name and a path"
  | repeatedPlugin name => "plugin '" ++ name ++ "' is configured more than once"

/-- The report of a fault. -/
def report (fault : ConfigFault) : Report := ⟨fault.message, []⟩

end ConfigFault

namespace Config

/-- Checks that a prefix starts with a slash. -/
def validatePrefix (key value : String) : Except ConfigFault Unit :=
  if value.toList.head? = some '/' then .ok () else .error (.relativePrefix key value)

/-- Checks plugins one after another, given the names that came before. -/
def validatePlugins (seen : List String) : List PluginConfig → Except ConfigFault Unit
  | [] => .ok ()
  | plugin :: rest =>
    if Text.isBlankText plugin.name || Text.isBlankText plugin.path then .error .incompletePlugin
    else if seen.contains plugin.name then .error (.repeatedPlugin plugin.name)
    else validatePlugins (plugin.name :: seen) rest

/-- Checks that all settings make sense and reports the first that does not. -/
def validate (config : Config) : Except ConfigFault Unit := do
  if config.cacheCapacity = 0 then throw .zeroCapacity
  if Text.isBlankText config.defaultNamespace then throw .blankNamespace
  validatePrefix "links.prefix" config.linkPrefix
  validatePrefix "links.clusterPrefix" config.clusterLinkPrefix
  validatePlugins [] config.plugins

/-- Adds a plugin at the end; one of the same name gives way. -/
def addPlugin (plugins : List PluginConfig) (plugin : PluginConfig) : List PluginConfig :=
  plugins.filter (·.name != plugin.name) ++ [plugin]

/-- The second configuration laid over the first: its settings count, and its plugins are added. -/
def merge (base other : Config) : Config :=
  { other with plugins := other.plugins.foldl addPlugin base.plugins }

/-- The settings as a document. -/
def toJson (config : Config) : Json :=
  .obj <|
    [("groupPods", .bool config.groupPods), ("defaultNamespace", .str config.defaultNamespace),
      ("cache", .obj [("capacity", .int config.cacheCapacity)]),
      ("links", .obj
        [("prefix", .str config.linkPrefix), ("clusterPrefix", .str config.clusterLinkPrefix)])] ++
      if config.plugins.isEmpty then []
      else [("plugins", .arr (config.plugins.map PluginConfig.toJson))]

end Config

end ClusterGraph
