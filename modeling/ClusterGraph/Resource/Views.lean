import ClusterGraph.Resource.Schema

/-!
What status rules and the traversal read from an object.

Each view is taken from an object that conforms to the schema of its kind, so that an absent field and
a `null` one mean the same and every other field has its type.
-/

namespace ClusterGraph

open Json (Mismatch)

namespace Object

/-- The value at a path of field names, where it is present and not `null`. -/
def at? (object : Object) (path : List String) : Option Json :=
  match object.document.at? path with
  | some .null => none
  | found => found

/-- The integer at a path. -/
def intAt? (object : Object) (path : List String) : Option Int :=
  (object.at? path).bind Json.int?

/-- The text at a path. -/
def textAt? (object : Object) (path : List String) : Option String :=
  (object.at? path).bind Json.text?

/-- The items of the list at a path. -/
def itemsAt (object : Object) (path : List String) : List Json :=
  ((object.at? path).map Json.items).getD []

end Object

/-! ## Pods -/

/-- A container that waits, and why. -/
structure WaitingContainer where
  name : String
  reason : String
  deriving DecidableEq, Repr, Inhabited

/-- What a pod uses by name. -/
structure ObjectReference where
  kind : ResourceKind
  name : String
  deriving DecidableEq, Repr, Inhabited

/-- The view of a pod: how it is, and what it uses in the order in which it mentions it. -/
structure PodView where
  phase : Option String
  reason : Option String
  waiting : List WaitingContainer
  references : List ObjectReference
  deriving Repr, Inhabited

namespace PodView

/-- A container status that says why the container waits. -/
def waiting? (status : Json) : Option WaitingContainer := do
  let reason ← (← status.at? ["state", "waiting", "reason"]).text?
  some ⟨status.textAt "name", reason⟩

/-- The reference in a field that names an object of a kind under a key; a name that is missing is
empty. -/
def named? (json : Json) (field : String) (kind : ResourceKind) : Option ObjectReference :=
  (json.present? field).map fun source => ⟨kind, source.textAt "name"⟩

/-- What the volumes of a pod mount. -/
def volumeReferences (volume : Json) : List ObjectReference :=
  (named? volume "configMap" .configMap).toList ++
    (((volume.at? ["secret", "secretName"]).bind Json.text?).map (⟨.secret, ·⟩)).toList

/-- What the environment of a container is taken from. -/
def containerReferences (container : Json) : List ObjectReference :=
  let whole := (container.itemsAt "envFrom").flatMap fun source =>
    (named? source "configMapRef" .configMap).toList ++
      (named? source "secretRef" .secret).toList
  let single := (container.itemsAt "env").flatMap fun entry =>
    match entry.present? "valueFrom" with
    | none => []
    | some source =>
      (named? source "configMapKeyRef" .configMap).toList ++
        (named? source "secretKeyRef" .secret).toList
  whole ++ single

/-- Everything that a pod refers to by a name that is not empty. -/
def referencesOf (pod : Object) : List ObjectReference :=
  let account := ((pod.textAt? ["spec", "serviceAccountName"]).map (⟨.serviceAccount, ·⟩)).toList
  let volumes := (pod.itemsAt ["spec", "volumes"]).flatMap volumeReferences
  let containers :=
    (pod.itemsAt ["spec", "initContainers"] ++ pod.itemsAt ["spec", "containers"]).flatMap
      containerReferences
  (account ++ volumes ++ containers).filter (!·.name.isEmpty)

end PodView

/-- The view of a pod. -/
def Object.asPod (object : Object) : Except Mismatch PodView := do
  object.conforms .pod
  pure
    { phase := object.textAt? ["status", "phase"]
      reason := object.textAt? ["status", "reason"]
      waiting := (object.itemsAt ["status", "containerStatuses"]).filterMap PodView.waiting?
      references := PodView.referencesOf object }

/-! ## Services and endpoints -/

/-- A port that a service offers. -/
structure ServicePort where
  name : Option String
  number : Int
  deriving DecidableEq, Repr, Inhabited

/-- The view of a service. -/
structure ServiceView where
  isExternal : Bool
  ports : List ServicePort
  selector : List (String × String)
  deriving Repr, Inhabited

/-- The view of a service. -/
def Object.asService (object : Object) : Except Mismatch ServiceView := do
  object.conforms .service
  let port := fun (json : Json) =>
    (⟨Object.textField? json "name", ((json.get? "port").bind Json.int?).getD 0⟩ : ServicePort)
  pure
    { isExternal := object.textAt? ["spec", "type"] == some "ExternalName"
      ports := (object.itemsAt ["spec", "ports"]).map port
      selector := ((object.at? ["spec", "selector"]).map Object.textEntries).getD [] }

/-- The number of addresses that endpoints list. -/
def Object.endpointCount (object : Object) : Except Mismatch Nat := do
  object.conforms .endpoints
  let counts := (object.itemsAt ["subsets"]).map fun subset => (subset.itemsAt "addresses").length
  pure (counts.foldl (· + ·) 0)

/-! ## Ingresses -/

/-- The port of a service that a backend asks for, by name or by number. -/
structure BackendPort where
  name : Option String
  number : Option Int
  deriving DecidableEq, Repr, Inhabited

/-- The service that a backend leads to. -/
structure ServiceBackend where
  name : String
  port : Option BackendPort
  deriving DecidableEq, Repr, Inhabited

/-- The view of an ingress: its backends, the default one first, each with its service if it has one,
and the secrets that its TLS entries name. -/
structure IngressView where
  backends : List (Option ServiceBackend)
  secrets : List String
  deriving Repr, Inhabited

namespace IngressView

/-- The service of a backend. -/
def backend (json : Json) : Option ServiceBackend :=
  (json.present? "service").map fun service =>
    { name := service.textAt "name"
      port := (service.present? "port").map fun port =>
        ⟨Object.textField? port "name", (port.get? "number").bind Json.int?⟩ }

/-- The backends of the paths of a rule; a path without backend has an empty one. -/
def ruleBackends (rule : Json) : List (Option ServiceBackend) :=
  match rule.present? "http" with
  | none => []
  | some http =>
    (http.itemsAt "paths").map fun path => backend ((path.get? "backend").getD .null)

/-- The services that the backends lead to. -/
def services (ingress : IngressView) : List ServiceBackend :=
  ingress.backends.filterMap id

end IngressView

/-- The view of an ingress. -/
def Object.asIngress (object : Object) : Except Mismatch IngressView := do
  object.conforms .ingress
  let default := ((object.at? ["spec", "defaultBackend"]).map IngressView.backend).toList
  pure
    { backends := default ++ (object.itemsAt ["spec", "rules"]).flatMap IngressView.ruleBackends
      secrets := (object.itemsAt ["spec", "tls"]).filterMap (Object.textField? · "secretName") }

end ClusterGraph
