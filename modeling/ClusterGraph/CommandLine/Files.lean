import ClusterGraph.CommandLine.Run

/-!
The files of a run.

A run looks at few files, and which ones they are can be said from its arguments, its variables and
the files that are already known: the settings name further ones.
-/

namespace ClusterGraph

/-- The variables that a run looks at. -/
def Environment.names : List String :=
  [Environment.configDirectoryName, "XDG_CONFIG_HOME", "HOME", "KUBECONFIG", "RESVIEW_GROUP_PODS",
    "RESVIEW_DEFAULT_NAMESPACE", "RESVIEW_CACHE_CAPACITY"] ++ Client.proxyVariables

namespace CommandLine

/-- The files with objects or with the way to a server. -/
def sourcesOf (environment : Environment) : Except Refusal Command → List String
  | .ok (.graph request) =>
    match request.file with
    | some path => [path]
    | none => Kubeconfig.paths environment
  | _ => []

/-- The files at which a run looks, as far as it can be said from the files that are known. -/
def paths (arguments : List String) (workspace : Workspace) : List String :=
  let config := (Config.load workspace).toOption.getD {}
  workspace.environment.configPath ::
    sourcesOf workspace.environment (Command.ofArguments arguments) ++ config.plugins.map (·.path)

end CommandLine

namespace FileTree

/-- The entries of a tree that another tree lacks or has otherwise, directories before what is in
them. -/
def changes (before after : FileTree) : List (String × FileEntry) :=
  after.entries.toList.filter fun (place, entry) => before.entries.get? place != some entry

end FileTree

end ClusterGraph
