import ClusterGraph.Config.Setting
import ClusterGraph.Workspace

/-!
Settings in files.

The settings in force are those of the settings file, laid over the defaults, with some of them
replaced by variables. A missing file changes nothing; a file that cannot be read or understood is an
error. Values of variables that cannot be understood are ignored.
-/

namespace ClusterGraph

/-- Why settings were not read or written. -/
inductive ConfigError where
  | unreadable (path : String) (error : FileError)
  | malformed (path : String)
  | noDirectory (path : String) (error : FileError)
  | unwritable (path : String) (error : FileError)
  deriving DecidableEq, Repr, Inhabited

namespace ConfigError

/-- The report of an error. -/
def report : ConfigError → Report
  | unreadable path error => ⟨"Failed to read config file: " ++ path, [error.message]⟩
  | malformed path => ⟨"Failed to parse config file: " ++ path, [yamlFault]⟩
  | noDirectory path error => ⟨"Failed to create directory: " ++ path, [error.message]⟩
  | unwritable path error => ⟨"Failed to write config file: " ++ path, [error.message]⟩

end ConfigError

namespace Config

/-- The settings of a file. -/
def ofFile (files : FileTree) (path : String) : Except ConfigError Config := do
  let text ← (files.read path).mapError (.unreadable path)
  match ofText? text with
  | some config => .ok config
  | none => .error (.malformed path)

/-- The settings with those of a variable replaced, if it has a value that can be understood. -/
def override {α : Type} (environment : Environment) (name : String) (value? : String → Option α)
    (replace : α → Config → Config) (config : Config) : Config :=
  match (environment.get? name).bind value? with
  | some value => replace value config
  | none => config

/-- The settings with everything replaced that variables say. -/
def withEnvironment (environment : Environment) (config : Config) : Config :=
  config
    |> override environment "RESVIEW_GROUP_PODS" Setting.flag?
      (fun groupPods config => { config with groupPods })
    |> override environment "RESVIEW_DEFAULT_NAMESPACE" (Option.guard (!·.isEmpty))
      (fun defaultNamespace config => { config with defaultNamespace })
    |> override environment "RESVIEW_CACHE_CAPACITY" (fun text => (Setting.size text).toOption)
      (fun cacheCapacity config => { config with cacheCapacity })

/-- The settings in force when a given file is the settings file. -/
def loadFrom (workspace : Workspace) (path : String) : Except ConfigError Config := do
  let start : Config := {}
  let config ←
    if workspace.files.contains path then do pure (start.merge (← ofFile workspace.files path))
    else pure start
  return config.withEnvironment workspace.environment

/-- The settings in force. -/
def load (workspace : Workspace) : Except ConfigError Config :=
  loadFrom workspace workspace.environment.configPath

/-- Checks the settings file alone, and then the settings in force. -/
def validateFiles (workspace : Workspace) : Except Report Unit := do
  let path := workspace.environment.configPath
  if workspace.files.contains path then
    let config ← (ofFile workspace.files path).mapError ConfigError.report
    config.validate.mapError (·.report.inContext ("Invalid config file: " ++ path))
  let config ← (load workspace).mapError
    (·.report.inContext "Failed to load merged configuration")
  config.validate.mapError (·.report.inContext "Invalid merged configuration")

/-- Writes settings to a file; missing directories around it are made. -/
def save (config : Config) (files : FileTree) (path : String) : Except ConfigError FileTree := do
  let files ← match FilePath.parent? path with
    | some directory => (files.ensure directory).mapError (.noDirectory directory)
    | none => pure files
  (files.write path config.text).mapError (.unwritable path)

end Config

end ClusterGraph
