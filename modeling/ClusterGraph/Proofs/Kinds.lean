import ClusterGraph.Resource.Schema

/-!
# Recognising objects of a well-known kind

An object is of a well-known kind by its name and by one of the groups that serve it. Looking its group
and kind up says the same as testing it, and the version plays no part in either:

* **`ResourceKind.ofGroupKind?_eq_some_iff`**, **`Object.isKind_iff`** — what the look-up and the test say.
* **`Object.conforms_of_isKind`** — conforming to a schema does take the one version that it fixes.
-/

namespace ClusterGraph

namespace ResourceKind

variable {kind : ResourceKind} {gk : GroupKind}

theorem ofName?_eq_some_iff {name : String} : ofName? name = some kind ↔ name = kind.name := by
  constructor
  · intro h
    have hname := List.find?_some h
    exact (beq_iff_eq.1 hname).symm
  · rintro rfl
    exact ofName?_name kind

theorem ofGroupKind?_eq_some_iff :
    ofGroupKind? gk = some kind ↔ gk.kind = kind.name ∧ gk.group ∈ kind.groups := by
  rw [ofGroupKind?, Option.filter_eq_some_iff, ofName?_eq_some_iff, List.contains_iff_mem]

theorem mem_groupKinds_iff : gk ∈ kind.groupKinds ↔ ofGroupKind? gk = some kind := by
  rw [ofGroupKind?_eq_some_iff, groupKinds, List.mem_map]
  constructor
  · rintro ⟨group, hm, rfl⟩
    exact ⟨rfl, hm⟩
  · rintro ⟨hname, hm⟩
    exact ⟨gk.group, hm, by rw [← hname]⟩

/-- The preferred version is one of a group that serves the kind. -/
theorem ofGroupKind?_ofApiVersion (kind : ResourceKind) :
    ofGroupKind? (.ofApiVersion kind.apiVersion kind.name) = some kind := by
  cases kind <;> decide

end ResourceKind

namespace Object

variable {object : Object} {kind : ResourceKind}

theorem isKind_iff :
    object.isKind kind = true ↔ ResourceKind.ofGroupKind? object.groupKind = some kind := by
  rw [ResourceKind.ofGroupKind?_eq_some_iff, isKind, Bool.and_eq_true, beq_iff_eq,
    List.contains_iff_mem]
  rfl

/-- An object is of one kind at most. -/
theorem eq_of_isKind {a b : ResourceKind} (ha : object.isKind a = true)
    (hb : object.isKind b = true) : a = b :=
  Option.some.inj ((isKind_iff.1 ha).symm.trans (isKind_iff.1 hb))

theorem kind_of_isKind (h : object.isKind kind = true) : object.kind = kind.name :=
  (ResourceKind.ofGroupKind?_eq_some_iff.1 (isKind_iff.1 h)).1

/-- Where one group only serves the kind, its objects have the group of the preferred version. -/
theorem groupKind_of_isKind (h : object.isKind kind = true)
    (hone : kind.groups = [apiGroup kind.apiVersion]) :
    object.groupKind = .ofApiVersion kind.apiVersion kind.name := by
  -- the group of the object is one of those that serve the kind, of which there is one
  obtain ⟨hname, hgroup⟩ := ResourceKind.ofGroupKind?_eq_some_iff.1 (isKind_iff.1 h)
  rw [hone, List.mem_singleton] at hgroup
  have hgk : object.groupKind = ⟨object.groupKind.group, object.groupKind.kind⟩ := rfl
  rw [hgk, hname, hgroup]
  rfl

theorem exists_type_of_isKind (h : object.isKind kind = true) : ∃ type, object.type = some type := by
  cases ht : object.type with
  | some type => exact ⟨type, rfl⟩
  | none =>
    -- an object without type has the empty kind, which is none of the well-known ones
    have hname : "" = kind.name := by
      rw [← kind_of_isKind h, Object.kind, ht]
      rfl
    exact absurd hname (by cases kind <;> decide)

theorem conforms_of_isKind (hk : object.isKind kind = true) (schema : Schema) :
    object.conforms schema =
      if object.apiVersion = schema.apiVersion then
        Json.Shape.checkFields schema.fields object.data
      else .error (.invalidValue (.str object.apiVersion) schema.apiVersion) := by
  -- an object of a kind has a type, so that its version is looked at
  obtain ⟨type, ht⟩ := exists_type_of_isKind hk
  simp only [conforms, apiVersion, ht]
  rfl

theorem apiVersion_of_conforms {schema : Schema} (hk : object.isKind kind = true)
    (h : object.conforms schema = .ok ()) : object.apiVersion = schema.apiVersion := by
  rw [conforms_of_isKind hk] at h
  split at h
  · assumption
  · cases h

end Object

end ClusterGraph
