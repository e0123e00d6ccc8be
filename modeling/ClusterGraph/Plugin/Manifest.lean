import ClusterGraph.Config.Basic
import ClusterGraph.File.Tree
import ClusterGraph.Plugin
import ClusterGraph.Yaml.Record

/-!
Plugins from rule manifests.

A rule manifest is a document with a list of rules. Each rule names the kind that it concerns. The
settings name the files with the manifests; one that is wrong makes all plugins unusable.
-/

namespace ClusterGraph

/-- A rule of a document. -/
def StatusRule.read (node : Yaml.Node) : Yaml.Read StatusRule := do
  let fields ← node.fieldsOf ["kind", "apiVersion", "namespace", "name", "status", "details"]
  return {
    kind := ← Yaml.Node.requiredIn fields "kind" Yaml.Node.text
    apiVersion := ← Yaml.Node.fieldIn fields "apiVersion" (Yaml.Node.optional Yaml.Node.text) none
    namespaceName := ← Yaml.Node.fieldIn fields "namespace" (Yaml.Node.optional Yaml.Node.text) none
    name := ← Yaml.Node.fieldIn fields "name" (Yaml.Node.optional Yaml.Node.text) none
    status := ← Yaml.Node.fieldIn fields "status"
      (Yaml.Node.optional (Yaml.Node.word NodeStatus.ofWord?)) none
    details := ← Yaml.Node.fieldIn fields "details" (Yaml.Node.listOf Yaml.Node.text) [] }

/-- The rules of a document. -/
def StatusRule.readAll (node : Yaml.Node) : Yaml.Read (List StatusRule) := do
  let fields ← node.fieldsOf ["rules"]
  Yaml.Node.fieldIn fields "rules" (Yaml.Node.listOf StatusRule.read) []

namespace Plugin

/-- The plugin that a rule manifest describes. -/
def ofManifest (name text : String) : Except PluginError Plugin :=
  match Yaml.readText? StatusRule.readAll text with
  | none => .error (.malformed name)
  | some rules =>
    match StatusRule.blankKind? rules with
    | some index => .error (.emptyKind name index)
    | none => .ok (.ofRules name rules)

/-- The plugin whose rules are in a file. -/
def ofFile (files : FileTree) (config : PluginConfig) : Except PluginError Plugin :=
  match files.read config.path with
  | .error error => .error (.unreadable config.path error)
  | .ok text => ofManifest config.name text

/-- The plugins that the settings name, in their order. -/
def ofFiles (files : FileTree) (configs : List PluginConfig) : Except PluginError (List Plugin) :=
  configs.mapM (ofFile files)

end Plugin

end ClusterGraph
