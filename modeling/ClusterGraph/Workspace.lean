import ClusterGraph.File.Tree

/-!
What a run finds around it.

A run sees files and variables. The variables say where the settings are kept: in a directory of their
own, or else in one below the directory for all settings of the user.
-/

namespace ClusterGraph

/-- The variables of a run. -/
abbrev Environment := Dict String

/-- The files and the variables of a run. -/
structure Workspace where
  files : FileTree
  environment : Environment

namespace Environment

/-- The variable that names the directory of the settings. -/
def configDirectoryName : String := "RESVIEW_CONFIG_DIR"

/-- The home directory of the user, or else the working directory. -/
def home (environment : Environment) : String :=
  ((environment.get? "HOME").filter (!·.isEmpty)).getD "."

/-- The directory for all settings of the user. -/
def userConfigDirectory (environment : Environment) : String :=
  match environment.get? "XDG_CONFIG_HOME" with
  | some directory => directory
  | none => FilePath.join environment.home ".config"

/-- The directory of the settings. -/
def configDirectory (environment : Environment) : String :=
  match environment.get? configDirectoryName with
  | some directory => directory
  | none => FilePath.join environment.userConfigDirectory "resview"

/-- The file of the settings. -/
def configPath (environment : Environment) : String :=
  FilePath.join environment.configDirectory "config.yaml"

end Environment

end ClusterGraph
