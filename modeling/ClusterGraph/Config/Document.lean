import ClusterGraph.Config.Basic
import ClusterGraph.Yaml.Printer
import ClusterGraph.Yaml.Record

/-!
Settings in YAML.

A document may leave settings out; they have their defaults. A list of plugins may stand alone.
-/

namespace ClusterGraph

open Yaml.Node (fieldsOf fieldIn requiredIn listOf)

/-- A plugin of a document. -/
def PluginConfig.read (node : Yaml.Node) : Yaml.Read PluginConfig := do
  let fields ← fieldsOf ["name", "path"] node
  return {
    name := ← requiredIn fields "name" Yaml.Node.text
    path := ← requiredIn fields "path" Yaml.Node.text }

namespace PluginConfig

/-- The plugins that a text lists. -/
def listOfText? (text : String) : Option (List PluginConfig) :=
  Yaml.readText? (listOf read) text

/-- The text of a list of plugins. -/
def listText (plugins : List PluginConfig) : String :=
  Yaml.render (.arr (plugins.map toJson))

end PluginConfig

namespace Config

/-- The capacity of the cache in a document. -/
def readCache (node : Yaml.Node) : Yaml.Read Nat := do
  let fields ← fieldsOf ["capacity"] node
  fieldIn fields "capacity" Yaml.Node.natural ({} : Config).cacheCapacity

/-- The prefixes of links in a document. -/
def readLinks (node : Yaml.Node) : Yaml.Read (String × String) := do
  let fields ← fieldsOf ["prefix", "clusterPrefix"] node
  return (← fieldIn fields "prefix" Yaml.Node.text ({} : Config).linkPrefix,
    ← fieldIn fields "clusterPrefix" Yaml.Node.text ({} : Config).clusterLinkPrefix)

/-- The settings of a document. -/
def read (node : Yaml.Node) : Yaml.Read Config := do
  let start : Config := {}
  let fields ← fieldsOf ["groupPods", "defaultNamespace", "cache", "links", "plugins"] node
  let (linkPrefix, clusterLinkPrefix) ←
    fieldIn fields "links" readLinks (start.linkPrefix, start.clusterLinkPrefix)
  return {
    groupPods := ← fieldIn fields "groupPods" Yaml.Node.flag start.groupPods
    defaultNamespace := ← fieldIn fields "defaultNamespace" Yaml.Node.text start.defaultNamespace
    cacheCapacity := ← fieldIn fields "cache" readCache start.cacheCapacity
    linkPrefix
    clusterLinkPrefix
    plugins := ← fieldIn fields "plugins" (listOf PluginConfig.read) start.plugins }

/-- The settings that a text gives. -/
def ofText? (text : String) : Option Config :=
  Yaml.readText? read text

/-- The text of settings. -/
def text (config : Config) : String :=
  Yaml.render config.toJson

end Config

end ClusterGraph
