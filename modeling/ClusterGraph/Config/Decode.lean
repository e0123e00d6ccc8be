import ClusterGraph.Config.Basic
import ClusterGraph.Json.Mismatch

/-!
Settings from documents.

A record of settings is an object, whose fields may be absent, or a list with the values of the fields
in their order. Unknown fields are ignored. Unlike elsewhere, `null` is no value for a field.
-/

namespace ClusterGraph.Config

open Json (Mismatch)

/-- A text. -/
def textOf : Json → Except Mismatch String
  | .str text => .ok text
  | found => .error (.invalidType found "a string")

/-- A Boolean. -/
def flagOf : Json → Except Mismatch Bool
  | .bool flag => .ok flag
  | found => .error (.invalidType found "a boolean")

/-- A natural number below 2^64. -/
def sizeOf : Json → Except Mismatch Nat
  | .int value =>
    if 0 ≤ value ∧ value < Nat.pow 2 64 then .ok value.toNat
    else .error (.invalidValue (.int value) "usize")
  | found => .error (.invalidType found "usize")

/-- Reads a record of settings: each field, in the order of the document, changes the record. A list
gives the fields in the order of `names`; what it leaves out stays as it was. -/
def recordOf {α : Type} (name : String) (names : List String) (start : α)
    (field : String → Json → α → Except Mismatch α) : Json → Except Mismatch α
  | .obj fields => fields.foldlM (fun acc (key, value) => field key value acc) start
  | .arr items => do
    let result ← (names.zip items).foldlM (fun acc (key, value) => field key value acc) start
    if names.length < items.length then
      throw (.invalidLength items.length "fewer elements in array")
    pure result
  | found => .error (.invalidType found ("struct " ++ name))

/-- The capacity of the cache. -/
def cacheOf (json : Json) : Except Mismatch Nat :=
  recordOf "CacheConfig" ["capacity"] ({} : Config).cacheCapacity
    (fun key value acc => if key = "capacity" then sizeOf value else .ok acc) json

/-- The prefixes of links. -/
def linksOf (json : Json) : Except Mismatch (String × String) :=
  recordOf "LinksConfig" ["prefix", "clusterPrefix"]
    (({} : Config).linkPrefix, ({} : Config).clusterLinkPrefix)
    (fun key value acc =>
      if key = "prefix" then return (← textOf value, acc.2)
      else if key = "clusterPrefix" then return (acc.1, ← textOf value)
      else return acc)
    json

/-- A plugin; it needs both its name and its path. -/
def pluginOf (json : Json) : Except Mismatch PluginConfig := do
  let (name, path) ← recordOf "PluginConfig" ["name", "path"] (none, none)
    (fun key value (acc : Option String × Option String) =>
      if key = "name" then return (some (← textOf value), acc.2)
      else if key = "path" then return (acc.1, some (← textOf value))
      else return acc)
    json
  match name, path, json with
  | some name, some path, _ => pure ⟨name, path⟩
  | none, _, .arr items =>
    throw (.invalidLength items.length "struct PluginConfig with 2 elements")
  | some _, none, .arr items =>
    throw (.invalidLength items.length "struct PluginConfig with 2 elements")
  | none, _, _ => throw (.missingField "name")
  | some _, none, _ => throw (.missingField "path")

/-- A list of plugins. -/
def pluginsOf : Json → Except Mismatch (List PluginConfig)
  | .arr items => items.mapM pluginOf
  | found => .error (.invalidType found "a sequence")

/-- One setting. -/
def settingOf (key : String) (value : Json) (config : Config) : Except Mismatch Config := do
  match key with
  | "groupPods" => return { config with groupPods := ← flagOf value }
  | "defaultNamespace" => return { config with defaultNamespace := ← textOf value }
  | "cache" => return { config with cacheCapacity := ← cacheOf value }
  | "links" =>
    let (linkPrefix, clusterLinkPrefix) ← linksOf value
    return { config with linkPrefix, clusterLinkPrefix }
  | "plugins" => return { config with plugins := ← pluginsOf value }
  | _ => return config

/-- The settings that a document gives; all others have their defaults. -/
def ofJson (json : Json) : Except Mismatch Config :=
  recordOf "Config" ["groupPods", "defaultNamespace", "cache", "links", "plugins"] {} settingOf json

end ClusterGraph.Config
