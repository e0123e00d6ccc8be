import ClusterGraph.Proofs.Json.Shape
import ClusterGraph.Proofs.Sample
import ClusterGraph.Proofs.Status.Dispatch

/-!
# Statuses by replicas

Objects of five kinds say how many replicas they want and how many of these are there. Where they say it, and
what counts if they do not, differs between the kinds (`ReplicaFields`); what should follow from the two
numbers does not (`NodeStatus.ofReplicas`): the status is good as soon as enough are there.

* **`Object.exists_runs`** — an object of the right form says both numbers.
* **`Checker.grades_iff`** — what the rule for each kind makes of them.
* **`Checker.grades_ofReplicas_iff`** — four of the rules are the common one. The rule for replication
  controllers is not: for it more replicas than are wanted are as bad as too few, so that more of them may
  turn a good status into a warning.
* **`Checker.not_forall_grades_ofReplicas`** — a replication controller with one replica too many.
-/

namespace ClusterGraph

/-- Where the objects of a kind say how many replicas they want and how many are there, and how many are
wanted where they do not say it. -/
structure ReplicaFields where
  schema : Schema
  desired : List String
  unsaid : Int
  ready : List String

/-- The fields of the kinds that are graded by their replicas. -/
def ResourceKind.replicaFields? : ResourceKind → Option ReplicaFields
  | .deployment =>
    some ⟨.deployment, ["spec", "replicas"], 1, ["status", "availableReplicas"]⟩
  | .replicaSet => some ⟨.replicaSet, ["spec", "replicas"], 1, ["status", "readyReplicas"]⟩
  | .statefulSet => some ⟨.statefulSet, ["spec", "replicas"], 1, ["status", "readyReplicas"]⟩
  | .replicationController =>
    some ⟨.replicationController, ["spec", "replicas"], 1, ["status", "readyReplicas"]⟩
  | .daemonSet =>
    some ⟨.daemonSet, ["status", "desiredNumberScheduled"], 0, ["status", "numberReady"]⟩
  | _ => none

/-- The status by the number of replicas that are wanted and the number of those that are there: good once
there are enough of them. -/
def NodeStatus.ofReplicas (desired ready : Int) : NodeStatus :=
  if desired ≤ ready then .ok else .warning

theorem NodeStatus.ofReplicas_eq_ok_iff {desired ready : Int} :
    NodeStatus.ofReplicas desired ready = .ok ↔ desired ≤ ready := by
  unfold NodeStatus.ofReplicas
  split <;> simp [*]

theorem NodeStatus.ofReplicas_eq_warning_iff {desired ready : Int} :
    NodeStatus.ofReplicas desired ready = .warning ↔ ready < desired := by
  rw [← not_le]
  unfold NodeStatus.ofReplicas
  split <;> simp [*]

/-- A rule grades an object: it gives it a status, which has this grade. -/
def Checker.Grades (checker : Checker) (store : Store) (object : Object) (grade : NodeStatus) : Prop :=
  ∃ status, checker.run store object = .ok status ∧ status.status = grade

namespace Object

/-- An object says a number in a field. Where nothing stands there, it says what is meant without it. -/
def Says (object : Object) (path : List String) (unsaid number : Int) : Prop :=
  object.at? path = some (.int number) ∨ object.at? path = none ∧ number = unsaid

/-- An object wants some replicas and has some. -/
structure Runs (object : Object) (fields : ReplicaFields) (desired ready : Int) : Prop where
  desired : object.Says fields.desired fields.unsaid desired
  ready : object.Says fields.ready 0 ready

variable {object : Object} {kind : ResourceKind} {schema : Schema} {fields : ReplicaFields}
  {path : List String} {unsaid number desired ready : Int}

/-! ## What an object says

A number may be left out, and a field that is there must hold a number, since the object has been compared
with a schema. So an object of the right form always says both numbers, if only by saying nothing. -/

theorem intAt?_of_says (h : object.Says path unsaid number) :
    (object.intAt? path).getD unsaid = number := by
  rcases h with h | ⟨h, rfl⟩ <;> rw [intAt?, h] <;> rfl

/-- An object of the form of a schema says a number wherever the schema has a counter. -/
theorem exists_says (hk : object.isKind kind = true) (hc : object.conforms schema = .ok ())
    (hs : (Json.Shape.record "" schema.fields).at? path = some .int32) (unsaid : Int) :
    ∃ number, object.Says path unsaid number := by
  have hcheck : (Json.Shape.record "" schema.fields).check object.document = .ok () := by
    have hv := apiVersion_of_conforms hk hc
    rw [conforms_of_isKind hk, if_pos hv] at hc
    rwa [document, Json.Shape.check]
  cases hf : object.document.at? path with
  | none =>
    have hnone : object.at? path = none := by rw [at?, hf]
    exact ⟨unsaid, Or.inr ⟨hnone, rfl⟩⟩
  | some found =>
    -- what stands in a counter's field is a number, or a null that counts as nothing
    rcases Json.Shape.check_at? hcheck hs hf with ⟨-, rfl⟩ | hint
    · have hnone : object.at? path = none := by rw [at?, hf]
      exact ⟨unsaid, Or.inr ⟨hnone, rfl⟩⟩
    · obtain ⟨number, rfl, -⟩ := Json.Shape.check_int32_iff.1 hint
      have hsome : object.at? path = some (.int number) := by rw [at?, hf]
      exact ⟨number, Or.inl hsome⟩

/-- **An object of the right form says how many replicas it wants and how many are there.** -/
theorem exists_runs (hf : kind.replicaFields? = some fields) (hk : object.isKind kind = true)
    (hc : object.conforms fields.schema = .ok ()) : ∃ desired ready, object.Runs fields desired ready := by
  have hcounters : (Json.Shape.record "" fields.schema.fields).at? fields.desired = some .int32 ∧
      (Json.Shape.record "" fields.schema.fields).at? fields.ready = some .int32 := by
    cases kind <;> cases hf <;> exact ⟨rfl, rfl⟩
  obtain ⟨desired, hdesired⟩ := exists_says hk hc hcounters.1 fields.unsaid
  obtain ⟨ready, hready⟩ := exists_says hk hc hcounters.2 0
  exact ⟨desired, ready, hdesired, hready⟩

end Object

namespace Checker

variable {store : Store} {object : Object} {kind : ResourceKind} {checker : Checker}
  {fields : ReplicaFields} {grade : NodeStatus} {desired ready : Int}

/-! ## What the rules make of it

Each rule is computed on an object that says its numbers. Put side by side they are one function of the
two numbers, apart from the case of a controller that has more replicas than it wants. -/

theorem grades_of_run {status : ObjectStatus} (h : checker.run store object = .ok status) :
    checker.Grades store object grade ↔ status.status = grade := by
  constructor
  · rintro ⟨other, hother, rfl⟩
    rw [h] at hother
    cases hother
    rfl
  · exact fun hgrade => ⟨status, h, hgrade⟩

theorem run_workload {schema : Schema} (hs : Check.workloadSchema? kind = some schema)
    (hk : object.isKind kind = true) (hc : object.conforms schema = .ok ()) :
    (workload kind).run store object = .ok (Check.workloadStatus kind object) := by
  show Check.workload kind object = _
  rw [Check.workload, hs]
  show object.viewAs kind _ = _
  rw [Resolver.viewAs_of_isKind hk, Object.converted, hc]
  rfl

theorem run_replicationController (hk : object.isKind .replicationController = true)
    (hc : object.conforms .replicationController = .ok ())
    (h : object.Runs ⟨.replicationController, ["spec", "replicas"], 1, ["status", "readyReplicas"]⟩
      desired ready) :
    replicationController.run store object =
      .ok (if ready = desired then .said .ok "Replication Controller is OK"
        else Check.missingReplicas desired ready) := by
  have hview : (object.viewAs .replicationController fun object =>
      (object.conforms .replicationController).map fun _ => object) = .ok object := by
    rw [Resolver.viewAs_of_isKind hk, Object.converted, hc]
    rfl
  show Check.replicationController object = _
  rw [Check.replicationController, hview, ← Object.intAt?_of_says h.desired,
    ← Object.intAt?_of_says h.ready]
  show (if _ then _ else _) = _
  split <;> rfl

theorem status_replicas (label : String) (desired ready : Int) :
    (Check.replicas label desired ready).status = .ofReplicas desired ready := by
  unfold Check.replicas NodeStatus.ofReplicas
  split <;> rfl

theorem status_workloadStatus (hf : kind.replicaFields? = some fields)
    (hs : Check.workloadSchema? kind = some fields.schema) (h : object.Runs fields desired ready) :
    (Check.workloadStatus kind object).status = .ofReplicas desired ready := by
  rw [← Object.intAt?_of_says h.desired, ← Object.intAt?_of_says h.ready]
  cases kind <;> cases hf <;> first | exact status_replicas _ _ _ | cases hs

/-- **What the rules make of the two numbers.** That of replication controllers gives a warning also where
there are more replicas than are wanted. -/
theorem grades_iff (hf : kind.replicaFields? = some fields)
    (hrule : (kind, checker) ∈ Resolver.standardRules) (hk : object.isKind kind = true)
    (hc : object.conforms fields.schema = .ok ()) (h : object.Runs fields desired ready) :
    checker.Grades store object grade ↔
      (if kind = .replicationController ∧ desired < ready then .warning
        else .ofReplicas desired ready) = grade := by
  by_cases hcontroller : kind = .replicationController
  · subst hcontroller
    cases hf
    have hchecker : checker = .replicationController := by simpa [Resolver.standardRules] using hrule
    rw [hchecker, grades_of_run (run_replicationController hk hc h)]
    -- the comparison of the controllers' rule is for equality, and tells three cases apart
    rcases lt_trichotomy desired ready with hlt | rfl | hgt
    · simp [hlt, hlt.ne', Check.missingReplicas, ObjectStatus.said]
    · simp [NodeStatus.ofReplicas, ObjectStatus.said]
    · simp [hgt.not_gt, hgt.not_ge, hgt.ne, NodeStatus.ofReplicas, Check.missingReplicas,
        ObjectStatus.said]
  · have hs : Check.workloadSchema? kind = some fields.schema := by
      cases kind <;> cases hf <;> first | rfl | exact absurd rfl hcontroller
    have hchecker : checker = .workload kind := by
      cases kind <;> cases hf <;>
        first | exact absurd rfl hcontroller | simpa [Resolver.standardRules] using hrule
    rw [hchecker, grades_of_run (run_workload hs hk hc), status_workloadStatus hf hs h,
      if_neg fun hboth => hcontroller hboth.1]

theorem grades_ok_iff (hf : kind.replicaFields? = some fields)
    (hrule : (kind, checker) ∈ Resolver.standardRules) (hk : object.isKind kind = true)
    (hc : object.conforms fields.schema = .ok ()) (h : object.Runs fields desired ready) :
    checker.Grades store object .ok ↔
      desired ≤ ready ∧ (kind = .replicationController → ready ≤ desired) := by
  rw [grades_iff hf hrule hk hc h, ← not_lt (a := desired), ← not_and]
  split
  · next hmore => exact iff_of_false nofun fun hboth => hboth.2 hmore
  · next hmore => rw [and_iff_left hmore, NodeStatus.ofReplicas_eq_ok_iff]

theorem grades_warning_iff (hf : kind.replicaFields? = some fields)
    (hrule : (kind, checker) ∈ Resolver.standardRules) (hk : object.isKind kind = true)
    (hc : object.conforms fields.schema = .ok ()) (h : object.Runs fields desired ready) :
    checker.Grades store object .warning ↔
      ready < desired ∨ kind = .replicationController ∧ desired < ready := by
  rw [grades_iff hf hrule hk hc h]
  split
  · next hmore => exact iff_of_true rfl (Or.inr hmore)
  · next hmore => rw [or_iff_left hmore, NodeStatus.ofReplicas_eq_warning_iff]

/-- **The rules for objects with replicas agree on those that have no more than they want, and only the rule
for replication controllers differs.** An object of the right form wants some replicas and has some. Its
status is good if it has as many as it wants, and else a warning, unless it is a replication controller that
has more; this one gets a warning. So among objects of one kind that want as many, having more of them never
makes a good status a warning, unless the object with more of them is such a replication controller. -/
theorem grades_ofReplicas_iff (store : Store) (hf : kind.replicaFields? = some fields)
    (hrule : (kind, checker) ∈ Resolver.standardRules) (hk : object.isKind kind = true)
    (hc : object.conforms fields.schema = .ok ()) :
    ∃ desired ready, object.Runs fields desired ready ∧
      (checker.Grades store object (.ofReplicas desired ready) ↔
        ¬ (kind = .replicationController ∧ desired < ready)) ∧
      (kind = .replicationController → desired < ready → checker.Grades store object .warning) ∧
      ∀ other more, other.isKind kind = true → other.conforms fields.schema = .ok () →
        other.Runs fields desired more → ready ≤ more → checker.Grades store object .ok →
        (checker.Grades store other .warning ↔ kind = .replicationController ∧ ready < more) := by
  obtain ⟨desired, ready, h⟩ := Object.exists_runs hf hk hc
  refine ⟨desired, ready, h, ?_, fun hcontroller hlt => ?_, ?_⟩
  · rw [grades_iff hf hrule hk hc h]
    split
    · next hmore =>
      have hgood : NodeStatus.ofReplicas desired ready = .ok :=
        NodeStatus.ofReplicas_eq_ok_iff.2 hmore.2.le
      rw [hgood]
      exact iff_of_false nofun (not_not_intro hmore)
    · next hmore => exact iff_of_true rfl hmore
  · exact (grades_warning_iff hf hrule hk hc h).2 (Or.inr ⟨hcontroller, hlt⟩)
  · intro other more hko hco ho hle hgood
    obtain ⟨henough, hexact⟩ := (grades_ok_iff hf hrule hk hc h).1 hgood
    -- a good controller has as many as it wants, so that any more are too many
    rw [grades_warning_iff hf hrule hko hco ho, or_iff_right (by omega)]
    refine and_congr_right fun hcontroller => ?_
    have hsame : ready = desired := le_antisymm (hexact hcontroller) henough
    rw [hsame]

/-- A replication controller with as many replicas as it wants is good, and one that wants as many and has
another one is not. -/
theorem grades_ofReplicas_iff_of_controllers :
    let even := Sample.controller 1 1
    let crowded := Sample.controller 1 2
    even.isKind .replicationController = true ∧
      even.conforms Schema.replicationController = .ok () ∧
      Checker.replicationController.Grades Sample.lone even .ok ∧
      Checker.replicationController.Grades Sample.lone crowded .warning := by
  intro even crowded
  have hrule : (ResourceKind.replicationController, Checker.replicationController) ∈
      Resolver.standardRules := by decide
  have hkind : even.isKind .replicationController = true := by decide
  have hform : even.conforms Schema.replicationController = .ok () := rfl
  obtain ⟨desired, ready, h, hgrade, -, hmore⟩ :=
    grades_ofReplicas_iff Sample.lone rfl hrule hkind hform
  have hdesired : desired = 1 := (Object.intAt?_of_says h.desired).symm
  have hready : ready = 1 := (Object.intAt?_of_says h.ready).symm
  subst hdesired hready
  have hgood : Checker.replicationController.Grades Sample.lone even .ok := hgrade.2 (by decide)
  exact ⟨hkind, hform, hgood, (hmore crowded 2 (by decide) rfl ⟨Or.inl rfl, Or.inl rfl⟩ (by decide)
    hgood).2 (by decide)⟩

/-- **Not every object with enough replicas is good.** This replication controller has one more than it
wants. -/
theorem not_forall_grades_ofReplicas :
    ¬ ∀ (store : Store) (kind : ResourceKind) (fields : ReplicaFields) (checker : Checker)
        (object : Object) (desired ready : Int),
      kind.replicaFields? = some fields → (kind, checker) ∈ Resolver.standardRules →
      object.isKind kind = true → object.conforms fields.schema = .ok () →
      object.Runs fields desired ready →
      checker.Grades store object (.ofReplicas desired ready) := by
  intro hall
  have hrule : (ResourceKind.replicationController, Checker.replicationController) ∈
      Resolver.standardRules := by decide
  have hkind : (Sample.controller 1 2).isKind .replicationController = true := by decide
  have hgrade := hall Sample.lone .replicationController _ .replicationController
    (Sample.controller 1 2) 1 2 rfl hrule hkind rfl ⟨Or.inl rfl, Or.inl rfl⟩
  rw [grades_iff rfl hrule hkind rfl ⟨Or.inl rfl, Or.inl rfl⟩] at hgrade
  exact absurd hgrade (by decide)

end Checker

end ClusterGraph
