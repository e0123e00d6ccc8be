import ClusterGraph.Object.Basic
import ClusterGraph.Status.Overlay
import ClusterGraph.Store.Error
import ClusterGraph.Text.Escaped

/-!
Why the status of an object is not known.
-/

namespace ClusterGraph

/-- Why a plugin cannot be used. -/
inductive PluginError where
  /-- Its rules are no YAML document of the right form. -/
  | malformed (plugin : String)
  /-- One of its rules, counted from zero, names no kind. -/
  | emptyKind (plugin : String) (rule : Nat)
  /-- Its file cannot be read. -/
  | unreadable (path : String) (error : FileError)
  /-- It failed with a message of its own. -/
  | failed (plugin message : String)
  deriving DecidableEq, Repr, Inhabited

namespace PluginError

/-- A name up to its first colon that a space follows. -/
def headline : List Char → List Char
  | ':' :: ' ' :: _ => []
  | [] => []
  | c :: rest => c :: headline rest

/-- The wording of an error. -/
def message : PluginError → String
  | malformed plugin =>
    "Invalid plugin manifest: " ++ String.ofList (headline plugin.toList) ++ ": " ++
      yamlFault
  | emptyKind plugin rule =>
    "Invalid plugin manifest: " ++ plugin ++ ": rule " ++ toString rule ++ " has an empty kind"
  | unreadable path error =>
    "Failed to load plugin: " ++ Text.quotedPath path ++ ": " ++ error.message
  | failed plugin message => "Plugin " ++ plugin ++ " failed: " ++ message

end PluginError

/-- Why the status of an object is not known. -/
inductive StatusError where
  /-- There is nothing to look at: neither a type nor a name nor an identifier. -/
  | missingObject
  /-- A rule for one kind met an object of another. -/
  | wrongKind (expected : ResourceKind)
  /-- The object does not have the form of its kind. -/
  | conversion (kind name : String) (fault : Json.Mismatch)
  /-- Something that the status depends on cannot be looked up. -/
  | lookup (kind name target : String) (error : StoreError)
  /-- A plugin failed. -/
  | plugin (kind name : String) (error : PluginError)
  deriving Repr, Inhabited

namespace StatusError

/-- The wording of an error. -/
def message : StatusError → String
  | missingObject => "object is nil"
  | wrongKind expected => "not a " ++ expected.name
  | conversion kind name fault => "unable to convert " ++ kind ++ " " ++ name ++ ": " ++ fault.message
  | lookup kind name target error =>
    "unable to look up " ++ target ++ " for " ++ kind ++ " " ++ name ++ ": " ++ error.message
  | plugin kind name error =>
    "plugin status for " ++ kind ++ " " ++ name ++ " failed: " ++ error.message

end StatusError

/-- A way to find the status of any object. -/
abbrev StatusResolver := Object → Except StatusError ObjectStatus

namespace StatusResolver

/-- The status of an object; one that cannot be found counts as good, without remarks. -/
def orOk (resolver : StatusResolver) (object : Object) : ObjectStatus :=
  match resolver object with
  | .ok status => status
  | .error _ => {}

end StatusResolver

end ClusterGraph
