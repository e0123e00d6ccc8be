import ClusterGraph.Cluster.Client
import ClusterGraph.CommandLine.Command
import ClusterGraph.Config.File
import ClusterGraph.Json.Printer
import ClusterGraph.Plugin.Manifest
import ClusterGraph.Store.Manifest
import ClusterGraph.Viewer

/-!
Running commands.

A command prints something and may change a file, or it fails with a report. Settings that cannot be
read do not keep a graph from being shown, nor settings from being written anew: the defaults serve
instead. Objects come from a manifest; a server has to be found first, and there is no connection to
one here.
-/

namespace ClusterGraph

/-- How a run ends: its exit code, what it prints, and the files after it. -/
structure Outcome where
  exit : Nat := 0
  output : String := ""
  errors : String := ""
  files : FileTree

namespace Outcome

/-- The end of a run that failed. -/
def failure (files : FileTree) (report : Report) : Outcome :=
  { exit := 1, errors := report.text ++ "\n", files }

/-- The end of a run that printed something or failed. -/
def ofResult (files : FileTree) : Except Report String → Outcome
  | .ok output => { output, files }
  | .error report => failure files report

end Outcome

/-- The text about the version. -/
def versionText : String :=
  "resview 0.1.0\n  Kubernetes resource relationship viewer: " ++
    "builds a deduplicated dependency graph of cluster objects\n  License: Apache-2.0\n"

namespace ConfigRequest

/-- The settings in force, or a report that they could not be loaded. -/
def loaded (workspace : Workspace) : Except Report Config :=
  (Config.load workspace).mapError (·.report.inContext "Failed to load configuration")

/-- The text of a setting without blanks at its end. -/
def shown (config : Config) (setting : Setting) : String :=
  Text.trimEnd (setting.textIn config)

/-- The text of the setting with a key, or of all settings. -/
def getText (workspace : Workspace) (key : Option String) : Except Report String := do
  let config ← loaded workspace
  match key with
  | none => return config.text
  | some key =>
    let setting ← (Setting.ofKey key).mapError SettingError.report
    return shown config setting ++ "\n"

/-- All settings, one a line. -/
def listText (workspace : Workspace) : Except Report String := do
  let config ← loaded workspace
  return String.join (Setting.all.map fun setting =>
    setting.key ++ ": " ++ shown config setting ++ "\n")

/-- The files after a setting was changed. The settings in force are written, so that what variables
say is written as well. -/
def changed (workspace : Workspace) (key value : String) : Except Report FileTree := do
  let config := (Config.load workspace).toOption.getD {}
  let config ← (config.set key value).mapError
    (·.report.inContext ("Failed to set " ++ key ++ " = " ++ value))
  config.validate.mapError (·.report.inContext ("Invalid value for " ++ key))
  (config.save workspace.files workspace.environment.configPath).mapError
    (·.report.inContext "Failed to save configuration")

/-- Carries a request out. -/
def run (workspace : Workspace) : ConfigRequest → Outcome
  | get key => .ofResult workspace.files (getText workspace key)
  | list => .ofResult workspace.files (listText workspace)
  | path => { output := workspace.environment.configPath ++ "\n", files := workspace.files }
  | set key value =>
    match changed workspace key value with
    | .ok files => { output := "Configuration saved\n", files }
    | .error report => .failure workspace.files report
  | validate =>
    match Config.validateFiles workspace with
    | .ok () => { output := "Configuration is valid\n", files := workspace.files }
    | .error report =>
      { exit := 1
        errors := "Configuration validation failed: " ++ report.line ++ "\n"
        files := workspace.files }

end ConfigRequest

namespace GraphRequest

/-- The namespace of the object. -/
def space (request : GraphRequest) (config : Config) : String :=
  request.namespaceName.getD config.defaultNamespace

/-- The kind of the object: the one that a word means, or else the word itself. -/
def kindName (request : GraphRequest) : String :=
  ((ResourceKind.ofWord? request.kind).map (·.name)).getD request.kind

/-- The report that the object could not be looked up. -/
def lookupReport (request : GraphRequest) (error : StoreError) : Report :=
  ⟨"Failed to get " ++ request.kindName ++ " " ++ request.name, error.message :: error.causes⟩

/-- The store in which the object is looked up. A server that was found cannot be reached. -/
def store (request : GraphRequest) (workspace : Workspace) (config : Config) :
    Except Report Store :=
  match request.file with
  | some path =>
    (Store.ofFile workspace.files (some (request.space config)) path).mapError fun error =>
      ⟨"Failed to load manifests from " ++ path, error.message :: error.causes⟩
  | none => do
    discard ((Client.create workspace request.context).mapError ClientError.report)
    throw (request.lookupReport (.discovery request.apiVersion request.kindName .unreachable))

/-- The object around which the graph is shown. -/
def start (request : GraphRequest) (config : Config) (store : Store) : Except Report Object := do
  let key := ObjectKey.one (some (request.space config)) request.apiVersion request.kindName
    request.name
  match ← (store.get key).mapError request.lookupReport with
  | some object => return object
  | none =>
    throw ⟨request.kindName ++ " " ++ request.space config ++ "/" ++ request.name ++ " not found", []⟩

/-- The graph that a request asks for. -/
def graph (request : GraphRequest) (workspace : Workspace) (config : Config) :
    Except Report Graph := do
  let store ← request.store workspace config
  let object ← request.start config store
  let plugins ← (Plugin.ofFiles workspace.files config.plugins).mapError fun error =>
    ⟨"Failed to load status plugins", [error.message]⟩
  let viewer := (Viewer.make store config plugins).withGrouping
    (config.groupPods && !request.ungrouped)
  (viewer.visitSelecting object (request.selected.getD object.id) false).mapError ViewError.report

/-- Carries a request out. -/
def run (request : GraphRequest) (workspace : Workspace) : Outcome :=
  let config := (Config.load workspace).toOption.getD {}
  .ofResult workspace.files <| (request.graph workspace config).map fun graph =>
    (if request.compact then graph.toJson.compact else graph.toJson.pretty) ++ "\n"

end GraphRequest

namespace Command

/-- Carries a command out. -/
def run (command : Command) (workspace : Workspace) : Outcome :=
  match command with
  | graph request => request.run workspace
  | config request => request.run workspace
  | version => { output := versionText, files := workspace.files }

end Command

namespace CommandLine

/-- The text that says how commands are written. -/
def usageText : String :=
  "Usage: resview [-d] graph API_VERSION KIND NAME [OPTIONS]\n" ++
    "       resview [-d] config get [KEY] | set KEY VALUE | list | path | validate\n" ++
    "       resview [-d] version\n"

/-- Carries out the command that arguments make. -/
def run (arguments : List String) (workspace : Workspace) : Outcome :=
  match Command.ofArguments arguments with
  | .ok command => command.run workspace
  | .error .help => { output := usageText, files := workspace.files }
  | .error .misuse => { exit := 2, errors := usageText, files := workspace.files }

end CommandLine

end ClusterGraph
