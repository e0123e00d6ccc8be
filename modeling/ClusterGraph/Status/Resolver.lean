import ClusterGraph.Plugin
import ClusterGraph.Status.Checks

/-!
Finding the status of an object.

A table says which rule grades the objects of a group and kind; objects without a rule are good. The
overlays of the plugins come on top.
-/

namespace ClusterGraph

/-- A store, the rules in force, and the plugins if there are any. A later entry of the table stands
before the earlier ones, so that it takes precedence. -/
structure Resolver where
  store : Store
  rules : List (GroupKind × Checker) := []
  plugins : Option (List Plugin) := none

namespace Resolver

/-- Lets a rule grade the objects of a group and kind. -/
def register (resolver : Resolver) (gk : GroupKind) (checker : Checker) : Resolver :=
  { resolver with rules := (gk, checker) :: resolver.rules }

/-- The rules for the well-known kinds. -/
def standardRules : List (ResourceKind × Checker) :=
  [(.pod, .pod), (.service, .service), (.ingress, .ingress),
    (.replicationController, .replicationController)] ++
    [ResourceKind.deployment, .replicaSet, .statefulSet, .daemonSet, .job].map fun kind =>
      (kind, .workload kind)

/-- The resolver in which every rule grades its kind in all groups that serve it. -/
def standard (store : Store) : Resolver :=
  { store, rules := standardRules.flatMap fun (kind, checker) => kind.groupKinds.map (·, checker) }

/-- The resolver with plugins. -/
def withPlugins (resolver : Resolver) (plugins : List Plugin) : Resolver :=
  { resolver with plugins := some plugins }

/-- The rule for a group and kind. -/
def checker? (resolver : Resolver) (gk : GroupKind) : Option Checker :=
  resolver.rules.lookup gk

/-- The status by the table alone. -/
def builtin (resolver : Resolver) (object : Object) : Except StatusError ObjectStatus :=
  match resolver.checker? object.groupKind with
  | some checker => checker.run resolver.store object
  | none => .ok {}

/-- The status of an object. -/
def status (resolver : Resolver) : StatusResolver := fun object =>
  if object.isEmpty then .error .missingObject
  else do
    let status ← resolver.builtin object
    match resolver.plugins with
    | none => pure status
    | some plugins =>
      let overlay ← (Plugin.overlayOf plugins object).mapError
        (.plugin object.kind object.nameAny)
      pure (status.apply overlay)

end Resolver

end ClusterGraph
