import ClusterGraph.Proofs.Sample
import ClusterGraph.Proofs.Status.Dispatch

/-!
# The version in which an object is there

The table of rules and the test for a kind leave versions out, so that the rule of a kind meets its objects
in every group and version in which they are served. But a workload or an ingress is read by a schema, and
a schema has one version, the preferred one of its kind:

* **`Resolver.status_of_other_version`** — in any other version the object has no status, however well
  formed it is.
* **`Resolver.same_status_iff_preferred`** — so it has the status that it has in the preferred version only
  if it is there in this one, or has none there either.
* **`Resolver.not_forall_same_status`** — a deployment that is there in a legacy group has none.
-/

namespace ClusterGraph

/-- The object in the version that is preferred for the kind. -/
def Object.inPreferredVersion (object : Object) (kind : ResourceKind) : Object :=
  object.withType ⟨kind.apiVersion, object.kind⟩

/-- The schema by which the rule of a kind reads a workload or an ingress. -/
def ResourceKind.gradedSchema? : ResourceKind → Option Schema
  | .ingress => some .ingress
  | kind => Check.workloadSchema? kind

/-- Two objects have a status if one of them has, and it is the same. -/
def StatusResolver.Agrees (resolver : StatusResolver) (a b : Object) : Prop :=
  ∀ status, resolver a = .ok status ↔ resolver b = .ok status

namespace Object

variable {object : Object} {kind : ResourceKind}

/-! ## The same object in another version

Only the version in the type of the object changes. Its kind stays, because kinds do not depend on
versions. -/

theorem isKind_inPreferredVersion (hk : object.isKind kind = true) :
    (object.inPreferredVersion kind).isKind kind = true := by
  rw [isKind_iff]
  show ResourceKind.ofGroupKind? (.ofApiVersion kind.apiVersion object.kind) = some kind
  rw [kind_of_isKind hk, ResourceKind.ofGroupKind?_ofApiVersion]

theorem inPreferredVersion_eq_self (hk : object.isKind kind = true)
    (hv : object.apiVersion = kind.apiVersion) : object.inPreferredVersion kind = object := by
  obtain ⟨type, ht⟩ := exists_type_of_isKind hk
  have htype : (⟨object.apiVersion, object.kind⟩ : ObjectType) = type := by
    rw [apiVersion, Object.kind, ht]
    rfl
  rw [inPreferredVersion, withType, ← hv, htype, ← ht]

end Object

namespace Resolver

variable {store : Store} {object : Object} {kind : ResourceKind} {schema : Schema}

theorem apiVersion_of_gradedSchema? (hs : kind.gradedSchema? = some schema) :
    schema.apiVersion = kind.apiVersion := by
  cases kind <;> cases hs <;> rfl

theorem workloadSchema?_of_ne_ingress (hs : kind.gradedSchema? = some schema) (hi : kind ≠ .ingress) :
    Check.workloadSchema? kind = some schema := by
  cases kind <;> first | exact hs | exact absurd rfl hi

/-! ## What the rules read

A schema has the preferred version of its kind, and is compared with the version of the object before any
of its fields. The rule for a workload has nothing else that could fail; the one for an ingress also asks
the store. -/

theorem status_workload (hs : Check.workloadSchema? kind = some schema)
    (hk : object.isKind kind = true) : (standard store).status object =
      ((object.conforms schema).map fun _ => Check.workloadStatus kind object).mapError
        (.conversion object.kind object.nameAny) := by
  have hrule : (kind, Checker.workload kind) ∈ standardRules := by
    cases kind <;> cases hs <;> decide
  rw [status_standard hk hrule]
  show Check.workload kind object = _
  rw [Check.workload, hs]
  exact viewAs_of_isKind hk

theorem status_ingress_of_error {fault : Json.Mismatch} (hk : object.isKind .ingress = true)
    (hc : object.conforms .ingress = .error fault) :
    (standard store).status object = .error (.conversion object.kind object.nameAny fault) := by
  rw [status_standard hk (by decide : (ResourceKind.ingress, Checker.ingress) ∈ standardRules)]
  have hview : object.viewAs .ingress Object.asIngress =
      .error (.conversion object.kind object.nameAny fault) := by
    rw [viewAs_of_isKind hk, Object.converted, Object.asIngress, hc]
    rfl
  show Check.ingress store object = _
  rw [Check.ingress, hview]
  rfl

/-- **In a version other than the preferred one there is no status.** -/
theorem status_of_other_version (hs : kind.gradedSchema? = some schema)
    (hk : object.isKind kind = true) (hv : object.apiVersion ≠ kind.apiVersion) :
    (standard store).status object = .error (.conversion object.kind object.nameAny
      (.invalidValue (.str object.apiVersion) kind.apiVersion)) := by
  have hversion := apiVersion_of_gradedSchema? hs
  have hc : object.conforms schema =
      .error (.invalidValue (.str object.apiVersion) kind.apiVersion) := by
    rw [Object.conforms_of_isKind hk, hversion, if_neg hv]
  -- the rule for an ingress asks more questions, but not before it has read the ingress
  by_cases hi : kind = .ingress
  · subst hi
    cases hs
    exact status_ingress_of_error hk hc
  · rw [status_workload (workloadSchema?_of_ne_ingress hs hi) hk, hc]
    rfl

theorem isOk_of_workload (hs : Check.workloadSchema? kind = some schema)
    (hk : object.isKind kind = true) (hv : object.apiVersion = schema.apiVersion)
    (htyped : Json.Shape.checkFields schema.fields object.data = .ok ()) :
    ((standard store).status object).isOk = true := by
  rw [status_workload hs hk, Object.conforms_of_isKind hk, if_pos hv, htyped]
  rfl

/-! ## The status in the preferred version

An object that is there in another version has an error for its status. It agrees with itself in the
preferred version only if there is no status in that version either, which an ingress may come to by a
question that fails. -/

/-- **An object has the status of the preferred version only in this version.** The status of a workload or
an ingress whose fields are well typed agrees with the one that it has in the preferred version of its kind
exactly if it is there in this version, or has no status in this version either. In any other version its
conversion fails; and in the preferred one a workload has a status. -/
theorem same_status_iff_preferred (store : Store) (hs : kind.gradedSchema? = some schema)
    (hk : object.isKind kind = true)
    (htyped : Json.Shape.checkFields schema.fields object.data = .ok ()) :
    let status := (standard store).status
    let preferred := object.inPreferredVersion kind
    (status.Agrees object preferred ↔
      object.apiVersion = kind.apiVersion ∨ (status preferred).isOk = false) ∧
    (object.apiVersion ≠ kind.apiVersion →
      status object = .error (.conversion object.kind object.nameAny
        (.invalidValue (.str object.apiVersion) kind.apiVersion))) ∧
    (kind ≠ .ingress → (status preferred).isOk = true) := by
  intro status preferred
  refine ⟨?_, status_of_other_version hs hk, fun hi => ?_⟩
  · by_cases hv : object.apiVersion = kind.apiVersion
    · have hsame : preferred = object := Object.inPreferredVersion_eq_self hk hv
      rw [hsame]
      exact ⟨fun _ => Or.inl hv, fun _ _ => Iff.rfl⟩
    · -- the object has no status, so that only another one without status agrees with it
      have hnone : status object = .error _ := status_of_other_version hs hk hv
      have hagrees : status.Agrees object preferred ↔ (status preferred).isOk = false := by
        unfold StatusResolver.Agrees
        rw [hnone]
        cases hp : status preferred with
        | error error => simp [Except.isOk, Except.toBool]
        | ok found => simp [Except.isOk, Except.toBool]
      rw [hagrees]
      exact (or_iff_right hv).symm
  · have hkind : preferred.isKind kind = true := Object.isKind_inPreferredVersion hk
    exact isOk_of_workload (workloadSchema?_of_ne_ingress hs hi) hkind
      (apiVersion_of_gradedSchema? hs).symm htyped

/-- The deployment in a legacy group has no status, while it would have one in the preferred version. -/
theorem same_status_iff_preferred_of_legacy :
    let status := (standard Sample.lone).status
    let preferred := Sample.legacy.inPreferredVersion .deployment
    Sample.legacy.isKind .deployment = true ∧
      status Sample.legacy = .error (.conversion "Deployment" "web"
        (.invalidValue (.str "extensions/v1beta1") "apps/v1")) ∧
      (status preferred).isOk = true ∧ ¬ status.Agrees Sample.legacy preferred := by
  have hk : Sample.legacy.isKind .deployment = true := by decide
  have hv : Sample.legacy.apiVersion ≠ ResourceKind.deployment.apiVersion := by decide
  have htyped : Json.Shape.checkFields Schema.deployment.fields Sample.legacy.data = .ok () := rfl
  obtain ⟨hagrees, hother, hpreferred⟩ := same_status_iff_preferred Sample.lone rfl hk htyped
  refine ⟨hk, hother hv, hpreferred (by decide), fun h => ?_⟩
  -- were the two to agree, it would be there in the preferred version, or have no status in it
  rcases hagrees.1 h with hsame | hfailed
  · exact hv hsame
  · rw [hpreferred (by decide)] at hfailed
    cases hfailed

/-- **Not every object of a kind with a rule has the status that it has in the preferred version.** The
deployment in a legacy group has none. -/
theorem not_forall_same_status :
    ¬ ∀ (store : Store) (object : Object) (kind : ResourceKind) (schema : Schema),
      kind.gradedSchema? = some schema → object.isKind kind = true →
      Json.Shape.checkFields schema.fields object.data = .ok () →
      (standard store).status.Agrees object (object.inPreferredVersion kind) := by
  intro hall
  have hk : Sample.legacy.isKind .deployment = true := by decide
  have hv : Sample.legacy.apiVersion ≠ ResourceKind.deployment.apiVersion := by decide
  have hagrees := hall Sample.lone Sample.legacy .deployment .deployment rfl hk rfl
  obtain ⟨found, hfound⟩ : ∃ found, (standard Sample.lone).status
      (Sample.legacy.inPreferredVersion .deployment) = .ok found :=
    Sample.exists_eq_ok (isOk_of_workload rfl (Object.isKind_inPreferredVersion hk) rfl rfl)
  -- the status in the preferred version would be one in the legacy group as well
  have hlegacy := (hagrees found).2 hfound
  rw [status_of_other_version rfl hk hv] at hlegacy
  cases hlegacy

end Resolver

end ClusterGraph
