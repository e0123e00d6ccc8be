import Mathlib.Data.Set.Subsingleton
import ClusterGraph.Fallible
import ClusterGraph.Proofs.Status.Dispatch

/-!
# Objects that are refused

A rule refuses an object that is empty or that is not of the kind of the rule, and it does so before it reads
anything. What comes after that may fail, but it refuses nothing (`NeverRefuses`). The table knows the kinds
of objects by their groups and names, and each rule tests them again:

* **`Checker.reads_run`** — every rule of the table begins by viewing the object as one of its kind.
* **`Checker.isFor_iff`** — so a rule is for the kind under which the table has it, and for no other one; and
  the table leaves no rule out that is for some kind.
* **`Resolver.consults_standard_iff`** — the table brings an object to a rule exactly if the object is of the
  kind that the rule is for.
* **`Resolver.dispatch_agrees`** — so the test by the rule never turns an object down that the table has
  brought to it, and only empty objects are refused.
-/

namespace ClusterGraph

open Json (Mismatch)

/-! ## Errors that refuse an object

Two of the errors turn an object down for what it is. That a computation has neither of them passes
through its steps, and the constructs below follow the way in which rules are written. -/

/-- The error says what an object is not, rather than what is wrong with it. -/
inductive StatusError.IsRefusal : StatusError → Prop where
  | missingObject : IsRefusal .missingObject
  | wrongKind (expected : ResourceKind) : IsRefusal (.wrongKind expected)

/-- A computation that may fail, but that does not refuse any object. -/
def NeverRefuses {α : Type} (result : Except StatusError α) : Prop :=
  ∀ error, result = .error error → ¬ error.IsRefusal

namespace NeverRefuses

variable {α β ε : Type}

theorem ok (a : α) : NeverRefuses (.ok a) :=
  nofun

theorem ite {p : Prop} [Decidable p] {yes no : Except StatusError α} (hyes : NeverRefuses yes)
    (hno : NeverRefuses no) : NeverRefuses (if p then yes else no) := by
  split
  · exact hyes
  · exact hno

theorem bind {first : Except StatusError α} {next : α → Except StatusError β}
    (hfirst : NeverRefuses first) (hnext : ∀ a, NeverRefuses (next a)) :
    NeverRefuses (first >>= next) := by
  intro error h
  rcases bind_eq_error.1 h with h | ⟨a, -, h⟩
  · exact hfirst error h
  · exact hnext a error h

theorem mapM {f : α → Except StatusError β} (h : ∀ item, NeverRefuses (f item)) (items : List α) :
    NeverRefuses (items.mapM f) := by
  intro error hfailed
  obtain ⟨_, item, _, -, -, hitem⟩ := mapM_eq_error.1 hfailed
  exact h item error hitem

/-- Errors in words that are no refusal. -/
theorem mapError {wording : ε → StatusError} (h : ∀ fault, ¬ (wording fault).IsRefusal)
    (result : Except ε α) : NeverRefuses (result.mapError wording) := by
  cases result with
  | ok a => exact ok a
  | error fault =>
    rintro _ ⟨⟩
    exact h fault

theorem converted (object : Object) (view : Object → Except Mismatch α) :
    NeverRefuses (object.converted view) :=
  mapError (fun _ h => by cases h) (view object)

theorem lookUp (object : Object) (store : Store) (target : String) (key : ObjectKey) :
    NeverRefuses (object.lookUp store target key) :=
  mapError (fun _ h => by cases h) (store.get key)

end NeverRefuses

/-! ## What a rule refuses

All rules have one form: they view the object as one of their kind, which tests it, and go on with what
they have seen. So what a rule refuses is settled by the test alone, whatever comes after it. -/

/-- The result of a rule that first views an object as one of a kind, and that refuses nothing once it has
seen it. -/
inductive Reads (object : Object) (kind : ResourceKind) : Except StatusError ObjectStatus → Prop where
  | viewed {α : Type} (view : Object → Except Mismatch α) (next : α → Except StatusError ObjectStatus)
    (h : ∀ seen, NeverRefuses (next seen)) : Reads object kind (object.viewAs kind view >>= next)

namespace Reads

variable {object : Object} {kind expected : ResourceKind} {result : Except StatusError ObjectStatus}

/-- A result is a refusal exactly if the object is refused when it is viewed. -/
theorem eq_refusal_iff {error : StatusError} (h : Reads object kind result) (he : error.IsRefusal) :
    result = .error error ↔
      object.isEmpty = true ∧ error = .missingObject ∨
        object.isEmpty = false ∧ object.isKind kind = false ∧ error = .wrongKind kind := by
  obtain ⟨view, next, hnext⟩ := h
  have hview : object.viewAs kind view >>= next = .error error ↔
      object.viewAs kind view = .error error := by
    rw [bind_eq_error, or_iff_left]
    rintro ⟨seen, -, h⟩
    exact hnext seen error h he
  rw [hview, Object.viewAs]
  by_cases hempty : object.isEmpty = true
  · rw [if_pos hempty, Except.error.injEq, eq_comm]
    simp [hempty]
  · by_cases hkind : object.isKind kind = true
    · -- a fault in the form of the object is no refusal
      rw [if_neg hempty, if_pos hkind]
      refine iff_of_false (fun h => NeverRefuses.converted object view error h he) ?_
      simp [hempty, hkind]
    · rw [if_neg hempty, if_neg hkind, Except.error.injEq, eq_comm]
      simp [hempty, hkind]

theorem eq_missingObject_iff (h : Reads object kind result) :
    result = .error .missingObject ↔ object.isEmpty = true := by
  rw [h.eq_refusal_iff .missingObject]
  simp

theorem eq_wrongKind_iff (h : Reads object kind result) :
    result = .error (.wrongKind expected) ↔
      object.isEmpty = false ∧ object.isKind kind = false ∧ expected = kind := by
  rw [h.eq_refusal_iff (.wrongKind expected)]
  simp

end Reads

namespace Check

variable {kind : ResourceKind}

theorem reads_pod (object : Object) : Reads object .pod (pod object) := by
  refine .viewed Object.asPod _ fun view => ?_
  split <;> exact .ok _

theorem reads_service (store : Store) (object : Object) :
    Reads object .service (service store object) := by
  refine .viewed Object.asService _ fun view => .ite (.ok _) (.bind (.lookUp object store _ _) ?_)
  rintro (_ | endpoints)
  · exact .ok _
  · exact .bind (.converted endpoints _) fun addresses => .ite (.ok _) (.ok _)

theorem neverRefuses_backendProblem (store : Store) (object : Object) (backend : ServiceBackend) :
    NeverRefuses (backendProblem store object backend) := by
  refine .bind (.lookUp object store _ _) ?_
  rintro (_ | service)
  · exact .ok _
  · exact .bind (.converted service _) fun view => .ite (.ok _) (.ok _)

theorem neverRefuses_secretProblem (store : Store) (object : Object) (name : String) :
    NeverRefuses (secretProblem store object name) :=
  .bind (.lookUp object store _ _) fun _ => .ite (.ok _) (.ok _)

theorem reads_ingress (store : Store) (object : Object) :
    Reads object .ingress (ingress store object) := by
  refine .viewed Object.asIngress _ fun view => .ite (.ok _) ?_
  refine .bind (.mapM (neverRefuses_backendProblem store object) _) fun backends => ?_
  refine .bind (.mapM (neverRefuses_secretProblem store object) _) fun secrets => ?_
  exact .ite (.ok _) (.ok _)

theorem reads_replicationController (object : Object) :
    Reads object .replicationController (replicationController object) :=
  .viewed _ _ fun _ => .ite (.ok _) (.ok _)

theorem reads_workload {schema : Schema} (hs : workloadSchema? kind = some schema) (object : Object) :
    Reads object kind (workload kind object) := by
  rw [workload, hs]
  have h : Reads object kind (object.viewAs kind _ >>= pure) :=
    .viewed (fun object => (object.conforms schema).map fun _ => workloadStatus kind object) pure .ok
  rwa [bind_pure] at h

end Check

namespace Checker

open Resolver (standardRules)

variable {checker : Checker} {kind other : ResourceKind}

/-- **Every rule of the table begins by viewing the object as one of its kind.** -/
theorem reads_run (h : (kind, checker) ∈ standardRules) (store : Store) (object : Object) :
    Reads object kind (checker.run store object) := by
  simp only [standardRules, List.map_cons, List.map_nil, List.cons_append, List.nil_append,
    List.mem_cons, List.not_mem_nil, or_false, Prod.mk.injEq] at h
  -- the table has four rules of their own, and the one for workloads under five kinds
  rcases h with ⟨rfl, rfl⟩ | ⟨rfl, rfl⟩ | ⟨rfl, rfl⟩ | ⟨rfl, rfl⟩ | hworkload
  · exact Check.reads_pod object
  · exact Check.reads_service store object
  · exact Check.reads_ingress store object
  · exact Check.reads_replicationController object
  · rcases hworkload with ⟨rfl, rfl⟩ | ⟨rfl, rfl⟩ | ⟨rfl, rfl⟩ | ⟨rfl, rfl⟩ | ⟨rfl, rfl⟩ <;>
      exact Check.reads_workload rfl object

/-- A rule is for a kind if the objects that it refuses are the empty ones and those of other kinds. -/
structure IsFor (checker : Checker) (kind : ResourceKind) : Prop where
  missingObject : ∀ store object,
    checker.run store object = .error .missingObject ↔ object.isEmpty = true
  wrongKind : ∀ store object expected, checker.run store object = .error (.wrongKind expected) ↔
    object.isEmpty = false ∧ object.isKind kind = false ∧ expected = kind

theorem isFor_of_mem (h : (kind, checker) ∈ standardRules) : checker.IsFor kind where
  missingObject store object := (reads_run h store object).eq_missingObject_iff
  wrongKind store object _ := (reads_run h store object).eq_wrongKind_iff

theorem IsFor.unique (h : checker.IsFor kind) (hother : checker.IsFor other) : kind = other := by
  -- an object of no well-known kind is told which kind the rule is for
  let stranger : Object := ⟨some ⟨"", ""⟩, {}, []⟩
  have hstranger : stranger.isKind kind = false := by cases kind <;> decide
  have hrefused := (h.wrongKind ⟨[], []⟩ stranger kind).2 ⟨rfl, hstranger, rfl⟩
  exact ((hother.wrongKind ⟨[], []⟩ stranger kind).1 hrefused).2.2

theorem exists_mem_of_isFor (h : checker.IsFor kind) : ∃ other, (other, checker) ∈ standardRules := by
  cases checker with
  | pod => exact ⟨.pod, by decide⟩
  | service => exact ⟨.service, by decide⟩
  | ingress => exact ⟨.ingress, by decide⟩
  | replicationController => exact ⟨.replicationController, by decide⟩
  | workload workloadKind =>
    cases hs : Check.workloadSchema? workloadKind with
    | some schema => exact ⟨workloadKind, by cases workloadKind <;> cases hs <;> decide⟩
    | none =>
      -- a rule for what is no workload turns down even the empty object as one of the wrong kind
      have hempty := (h.missingObject ⟨[], []⟩ ⟨none, {}, []⟩).2 rfl
      rw [run, Check.workload, hs] at hempty
      cases hempty

theorem isFor_iff : checker.IsFor kind ↔ (kind, checker) ∈ standardRules := by
  refine ⟨fun h => ?_, isFor_of_mem⟩
  obtain ⟨other, hother⟩ := exists_mem_of_isFor h
  rwa [h.unique (isFor_of_mem hother)]

end Checker

/-! ## What the table brings to a rule

The table looks a group and kind up, and the test of the rule looks at the object itself. Both come to the
same well-known kind, and then the test has nothing left to refuse. -/

namespace Resolver

variable {resolver : Resolver} {store : Store} {object : Object} {checker : Checker}

/-- The resolver leaves the status of an object to a rule. -/
def Consults (resolver : Resolver) (checker : Checker) (object : Object) : Prop :=
  resolver.checker? object.groupKind = some checker

theorem consults_standard_iff : (standard store).Consults checker object ↔
    ∃ kind, checker.IsFor kind ∧ object.isKind kind = true := by
  simp only [Consults, checker?_standard_iff, Checker.isFor_iff, Object.isKind_iff]

/-- Where every rule is only brought objects of the kind that it is for, none of them is refused. -/
theorem neverRefuses_builtin (h : ∀ checker, resolver.Consults checker object →
    ∃ kind, checker.IsFor kind ∧ object.isKind kind = true) :
    NeverRefuses (resolver.builtin object) := by
  unfold builtin
  split
  · -- a refusal by the rule would say that the object is empty or of another kind, and it is neither
    next checker hfound =>
    obtain ⟨kind, hfor, hkind⟩ := h checker hfound
    rintro error hfailed (_ | expected)
    · have hempty := (hfor.missingObject resolver.store object).1 hfailed
      rw [isEmpty_of_isKind hkind] at hempty
      cases hempty
    · have hother := ((hfor.wrongKind resolver.store object expected).1 hfailed).2.1
      rw [hkind] at hother
      cases hother
  · exact .ok _

/-- What plugins fail with is no refusal. -/
theorem neverRefuses_status (h : NeverRefuses (resolver.builtin object))
    (he : object.isEmpty = false) : NeverRefuses (resolver.status object) := by
  rw [status, if_neg (by simp [he])]
  refine .bind h fun status => ?_
  cases resolver.plugins with
  | none => exact .ok _
  | some plugins =>
    exact .bind (.mapError (fun _ hrefusal => by cases hrefusal) _) fun overlay => .ok _

/-- Where the table refuses nothing, only empty objects are refused. -/
theorem status_eq_refusal_iff {error : StatusError} (h : NeverRefuses (resolver.builtin object))
    (hrefusal : error.IsRefusal) :
    resolver.status object = .error error ↔ object.isEmpty = true ∧ error = .missingObject := by
  by_cases he : object.isEmpty = true
  · rw [status, if_pos he, Except.error.injEq, eq_comm]
    simp [he]
  · refine iff_of_false (fun hfailed => ?_) fun hempty => he hempty.1
    exact neverRefuses_status h (by simpa using he) error hfailed hrefusal

/-- **The ways to tell the kind of an object agree.** Whatever its API version and kind are, an object passes
the test for a well-known kind exactly if its group and kind are found to belong to this kind, so that it is
of one kind at most. With or without plugins, the standard resolver leaves it to a rule exactly if it is of
the kind that the rule is for. So no rule is ever brought an object of the wrong kind, and an object is
missing exactly if it is empty. -/
theorem dispatch_agrees (store : Store) (plugins : Option (List Plugin)) (object : Object) :
    let resolver : Resolver := { standard store with plugins }
    (∀ kind, object.isKind kind = true ↔
      ResourceKind.ofGroupKind? object.groupKind = some kind) ∧
    {kind | object.isKind kind = true}.Subsingleton ∧
    (∀ checker kind, checker.IsFor kind ↔ (kind, checker) ∈ standardRules) ∧
    (∀ checker, resolver.Consults checker object ↔
      ∃ kind, checker.IsFor kind ∧ object.isKind kind = true) ∧
    (∀ kind, resolver.status object ≠ .error (.wrongKind kind)) ∧
    (resolver.status object = .error .missingObject ↔ object.isEmpty = true) := by
  intro resolver
  have hconsults : ∀ checker, resolver.Consults checker object ↔
      ∃ kind, checker.IsFor kind ∧ object.isKind kind = true :=
    -- plugins leave the table as it is
    fun checker => show (standard store).Consults checker object ↔ _ from consults_standard_iff
  have hbuiltin : NeverRefuses (resolver.builtin object) :=
    neverRefuses_builtin fun checker => (hconsults checker).1
  refine ⟨fun _ => Object.isKind_iff, fun _ ha _ hb => Object.eq_of_isKind ha hb,
    fun _ _ => Checker.isFor_iff, hconsults, fun kind hfailed => ?_, ?_⟩
  · cases ((status_eq_refusal_iff hbuiltin (.wrongKind kind)).1 hfailed).2
  · rw [status_eq_refusal_iff hbuiltin .missingObject]
    simp

end Resolver

end ClusterGraph
