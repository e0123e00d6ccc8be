/-!
API versions, groups and kinds.

An API version is `group/version`, or only a version for the core group, whose name is empty. A group
and a kind together say what an object is, whichever version it is served in.
-/

namespace ClusterGraph

/-- The part of an API version before its first slash; empty when there is none. -/
def apiGroup (apiVersion : String) : String :=
  let s := apiVersion.toList
  if '/' ∈ s then String.ofList (s.takeWhile (· != '/')) else ""

/-- The part of an API version after its first slash; all of it when there is none. -/
def apiVersionNumber (apiVersion : String) : String :=
  let s := apiVersion.toList
  if '/' ∈ s then String.ofList ((s.dropWhile (· != '/')).drop 1) else apiVersion

/-- What an object is: its API group and its kind, without the version. -/
structure GroupKind where
  group : String
  kind : String
  deriving DecidableEq, Repr, Inhabited

namespace GroupKind

/-- The group and kind of an object of a given API version. -/
def ofApiVersion (apiVersion kind : String) : GroupKind :=
  ⟨apiGroup apiVersion, kind⟩

/-- The kind, followed by a point and the group unless that is the core group. -/
def text (gk : GroupKind) : String :=
  if gk.group.isEmpty then gk.kind else gk.kind ++ "." ++ gk.group

end GroupKind

end ClusterGraph
