import ClusterGraph.Proofs.Dict
import ClusterGraph.Proofs.Kinds
import ClusterGraph.Status.Resolver

/-!
# Which rule grades an object

The table of the standard resolver has an entry for each rule and each group that serves the kind of the
rule. As no two rules are for one kind, and no group and kind belong to two kinds:

* **`Resolver.checker?_standard_iff`** — the rule for a group and kind is the one for the well-known kind
  that these belong to.
* **`Resolver.status_standard`** — so the status of an object of such a kind is what the rule says.
-/

namespace ClusterGraph.Resolver

variable {store : Store} {object : Object} {kind : ResourceKind} {checker : Checker}

/-! ## The table of rules

A rule is entered once for every group that serves its kind, those of older versions among them. The table
is the same for every store, so that its keys can be compared by computation. -/

theorem mem_rules_standard_iff {gk : GroupKind} :
    (gk, checker) ∈ (standard store).rules ↔
      ∃ kind, (kind, checker) ∈ standardRules ∧ ResourceKind.ofGroupKind? gk = some kind := by
  simp only [standard, List.mem_flatMap, List.mem_map]
  constructor
  · rintro ⟨⟨kind, rule⟩, hrule, gk', hgk, heq⟩
    obtain ⟨rfl, rfl⟩ := Prod.mk.inj heq
    exact ⟨kind, hrule, ResourceKind.mem_groupKinds_iff.1 hgk⟩
  · rintro ⟨kind, hrule, hgk⟩
    exact ⟨(kind, checker), hrule, gk, ResourceKind.mem_groupKinds_iff.2 hgk, rfl⟩

theorem nodup_rules_standard (store : Store) : ((standard store).rules.map Prod.fst).Nodup := by
  -- the keys of the table do not depend on the store
  show ((standard ⟨[], []⟩).rules.map Prod.fst).Nodup
  decide +kernel

/-- **The rule for a group and kind is the one for the well-known kind.** -/
theorem checker?_standard_iff {gk : GroupKind} :
    (standard store).checker? gk = some checker ↔
      ∃ kind, (kind, checker) ∈ standardRules ∧ ResourceKind.ofGroupKind? gk = some kind := by
  rw [checker?, Dict.lookup_eq_some_iff_mem (nodup_rules_standard store), mem_rules_standard_iff]

/-! ## The rule at work

An object of a well-known kind is not empty, and passes the test for its kind that every rule starts with.
What is left of the resolver is the rule itself. -/

theorem isEmpty_of_isKind (h : object.isKind kind = true) : object.isEmpty = false := by
  obtain ⟨type, ht⟩ := Object.exists_type_of_isKind h
  simp [Object.isEmpty, ht]

/-- An object of the kind that a rule is for is read, whether or not that goes through. -/
theorem viewAs_of_isKind {α : Type} {view : Object → Except Json.Mismatch α}
    (h : object.isKind kind = true) : object.viewAs kind view = object.converted view := by
  rw [Object.viewAs, if_neg (by simp [isEmpty_of_isKind h]), if_pos h]

theorem status_standard (hk : object.isKind kind = true) (hrule : (kind, checker) ∈ standardRules) :
    (standard store).status object = checker.run store object := by
  have hfound : (standard store).checker? object.groupKind = some checker :=
    checker?_standard_iff.2 ⟨kind, hrule, Object.isKind_iff.1 hk⟩
  have hbuiltin : (standard store).builtin object = checker.run store object := by
    rw [builtin, hfound]
    rfl
  rw [status, if_neg (by simp [isEmpty_of_isKind hk]), hbuiltin]
  cases checker.run store object <;> rfl

end ClusterGraph.Resolver
