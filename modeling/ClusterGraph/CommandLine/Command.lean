import ClusterGraph.CommandLine.Options

/-!
Commands.

A command shows the graph around an object, works with the settings, or shows the version. The option
for debugging may stand anywhere.
-/

namespace ClusterGraph

/-- What a graph is asked for. -/
structure GraphRequest where
  apiVersion : String
  kind : String
  name : String
  namespaceName : Option String := none
  /-- The file with the objects; without one a server is asked. -/
  file : Option String := none
  /-- The context that leads to the server. -/
  context : Option String := none
  /-- The node to be highlighted, if it is not that of the object. -/
  selected : Option String := none
  ungrouped : Bool := false
  compact : Bool := false
  deriving DecidableEq, Repr, Inhabited

/-- What is to be done with the settings. -/
inductive ConfigRequest where
  | get (key : Option String)
  | set (key value : String)
  | list
  | path
  | validate
  deriving DecidableEq, Repr, Inhabited

/-- A command. -/
inductive Command where
  | graph (request : GraphRequest)
  | config (request : ConfigRequest)
  | version
  deriving DecidableEq, Repr, Inhabited

namespace Command

open CommandLine (OptionSpec Spec Reading Refusal)

/-- The option for debugging. -/
def debugOption : OptionSpec := { name := "debug", letter := some 'd' }

/-- A command without options of its own. -/
def bareSpec (positionals : Nat) : Spec := ⟨[debugOption], positionals⟩

/-- The options of the command for graphs. -/
def graphSpec : Spec where
  options :=
    [debugOption,
      { name := "namespace", letter := some 'n', takesValue := true },
      { name := "file", letter := some 'f', takesValue := true, mayBeEmpty := false },
      { name := "context", takesValue := true },
      { name := "select", takesValue := true },
      { name := "no-group" },
      { name := "compact" }]
  positionals := 3

/-- The command for a graph. -/
def graphOf (arguments : List String) : Except Refusal Command := do
  let reading ← graphSpec.read arguments
  match reading.positionals with
  | [apiVersion, kind, name] =>
    return .graph
      { apiVersion, kind, name
        namespaceName := reading.value? "namespace"
        file := reading.value? "file"
        context := reading.value? "context"
        selected := reading.value? "select"
        ungrouped := reading.has "no-group"
        compact := reading.has "compact" }
  | _ => throw .misuse

/-- The positional arguments of a command that has only these. -/
def positionalsOf (count : Nat) (arguments : List String) : Except Refusal (List String) := do
  return (← (bareSpec count).read arguments).positionals

/-- The names of the commands below the one to which a path of names leads. -/
def namesBelow : List String → List String
  | [] => ["graph", "config", "version", "help"]
  | ["config"] => ["get", "set", "list", "path", "validate", "help"]
  | _ => []

/-- The answer to a request for help about the command to which further names lead. -/
def helpAbout (place : List String) : List String → Refusal
  | [] => .help
  | name :: rest =>
    if (namesBelow place).contains name then helpAbout (place ++ [name]) rest else .misuse

/-- The command for settings. -/
def configOf (arguments : List String) : Except Refusal Command := do
  match ← (bareSpec 0).readLeading {} arguments with
  | "get" :: arguments =>
    match ← positionalsOf 1 arguments with
    | [] => return .config (.get none)
    | key :: _ => return .config (.get (some key))
  | "set" :: arguments =>
    match ← positionalsOf 2 arguments with
    | [key, value] => return .config (.set key value)
    | _ => throw .misuse
  | "list" :: arguments => do
    discard (positionalsOf 0 arguments)
    return .config .list
  | "path" :: arguments => do
    discard (positionalsOf 0 arguments)
    return .config .path
  | "validate" :: arguments => do
    discard (positionalsOf 0 arguments)
    return .config .validate
  | "help" :: arguments => throw (helpAbout ["config"] arguments)
  | _ => throw .misuse

/-- The command that arguments make. -/
def ofArguments (arguments : List String) : Except Refusal Command := do
  match ← (bareSpec 0).readLeading {} arguments with
  | "graph" :: arguments => graphOf arguments
  | "config" :: arguments => configOf arguments
  | "version" :: arguments => do
    discard (positionalsOf 0 arguments)
    return .version
  | "help" :: arguments => throw (helpAbout [] arguments)
  | _ => throw .misuse

end Command

end ClusterGraph
