import ClusterGraph.Status.Error
import ClusterGraph.Text.Pieces

/-!
Plugins that add to the status of objects.

A plugin says which groups and kinds it handles and gives an overlay for each of their objects. Rules
are the usual source: every rule that matches an object contributes, in their order. Several plugins
are asked one after another, and their overlays are merged in that order.
-/

namespace ClusterGraph

/-- One rule: whom it concerns, and what it adds. A condition that is not given always holds. -/
structure StatusRule where
  kind : String
  apiVersion : Option String := none
  namespaceName : Option String := none
  name : Option String := none
  status : Option NodeStatus := none
  details : List String := []
  deriving DecidableEq, Repr, Inhabited

namespace StatusRule

/-- Whether the rule can concern objects of a group and kind. -/
def matchesType (rule : StatusRule) (gk : GroupKind) : Bool :=
  rule.kind == gk.kind && rule.apiVersion.all (GroupKind.ofApiVersion · rule.kind == gk)

/-- Whether the rule concerns an object. -/
def concerns (rule : StatusRule) (object : Object) : Bool :=
  rule.matchesType object.groupKind && rule.apiVersion.all (· == object.apiVersion) &&
    rule.namespaceName.all (object.namespaceName == some ·) &&
    rule.name.all (object.nameAny == ·)

/-- What the rule adds. -/
def overlay (rule : StatusRule) : Overlay :=
  ⟨rule.status, rule.details.map .text⟩

/-- What the matching rules of a list add, in their order. -/
def overlayOf (rules : List StatusRule) (object : Object) : Overlay :=
  ((rules.filter (·.concerns object)).map overlay).foldl Overlay.merge {}

/-- The position of the first rule whose kind is blank. -/
def blankKind? (rules : List StatusRule) : Option Nat :=
  rules.findIdx? fun rule => Text.isBlankText rule.kind

end StatusRule

/-- A source of overlays. -/
structure Plugin where
  name : String
  handles : GroupKind → Bool
  overlay : Object → Except PluginError Overlay

namespace Plugin

/-- The plugin of a list of rules. -/
def ofRules (name : String) (rules : List StatusRule) : Plugin where
  name := name
  handles gk := rules.any (·.matchesType gk)
  overlay object := .ok (StatusRule.overlayOf rules object)

/-- A plugin that gives the same answer for every object, either of the given kinds or of all. -/
def constant (name : String) (kinds : Option (List String))
    (answer : Except PluginError Overlay) : Plugin where
  name := name
  handles gk := kinds.all (·.contains gk.kind)
  overlay _ := answer

/-- The overlay of several plugins, asked in order; the first failure ends the round. -/
def overlayOf (plugins : List Plugin) (object : Object) : Except PluginError Overlay :=
  (plugins.filter (·.handles object.groupKind)).foldlM
    (fun merged plugin => do pure (merged.merge (← plugin.overlay object))) {}

end Plugin

end ClusterGraph
