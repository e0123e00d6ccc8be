import ClusterGraph.Link
import ClusterGraph.Proofs.Kinds
import ClusterGraph.Proofs.Sample
import ClusterGraph.Proofs.Text.Cut

/-!
# What a path says about its object

A path is read from both ends. Behind its last slash stands the name, and in front of it, behind the prefix,
the namespace if there is one; what is left between them is the section. So:

* **`GroupKind.text_inj`** — a group and kind are read from their text if the kind has no point.
* **`PathLayout.sectionOf_eq_iff`** — a section is the one of a well-known kind, or says group, kind and
  version.
* **`PathLayout.root_append_inj`**, **`PathLayout.path_eq_iff`** — two objects have one path exactly if they
  have one namespace, one section and one name.
* **`PathLayout.path_eq_iff_alike`** — and so a path stands for one name, one namespace and one type.
-/

namespace ClusterGraph

/-- Where the kinds have no point in them, groups and kinds are known by their text. -/
theorem GroupKind.text_inj {a b : GroupKind} (ha : '.' ∉ a.kind.toList) (hb : '.' ∉ b.kind.toList) :
    a.text = b.text ↔ a = b := by
  refine ⟨fun h => ?_, fun h => by rw [h]⟩
  obtain ⟨groupA, kindA⟩ := a
  obtain ⟨groupB, kindB⟩ := b
  have hpoint : ∀ kind group : String, '.' ∈ (kind ++ "." ++ group).toList := by simp
  simp only [text, String.isEmpty_iff] at h
  -- a text has a point in it exactly if there is a group
  split at h <;> split at h
  · simp_all
  · exact absurd (hpoint kindB groupB) (h ▸ ha)
  · exact absurd (hpoint kindA groupA) (h ▸ hb)
  · obtain ⟨rfl, rfl⟩ := (Text.cut_first rfl ha hb).1 h
    rfl

namespace Object

/-- The types of two objects are told apart by their sections if they are of one well-known kind, or else by
group, kind and version. -/
def SharesType (a b : Object) : Prop :=
  (∃ kind, a.isKind kind = true ∧ b.isKind kind = true) ∨
    a.groupKind = b.groupKind ∧ apiVersionNumber a.apiVersion = apiVersionNumber b.apiVersion

theorem SharesType.symm {a b : Object} (h : a.SharesType b) : b.SharesType a := by
  rcases h with ⟨kind, ha, hb⟩ | ⟨hgk, hversion⟩
  · exact Or.inl ⟨kind, hb, ha⟩
  · exact Or.inr ⟨hgk.symm, hversion.symm⟩

/-- Two objects have the same name, live in the same namespace or both in none, and have the same type. -/
structure Alike (a b : Object) : Prop where
  name : a.metadata.name = b.metadata.name
  space : a.namespaceName.getD "" = b.namespaceName.getD ""
  type : a.SharesType b

/-- The parts of the path of an object do not contain what stands between them. -/
structure Separable (object : Object) : Prop where
  name : ∀ name ∈ object.metadata.name, '/' ∉ name.toList
  space : '/' ∉ (object.namespaceName.getD "").toList
  version : '/' ∉ (apiVersionNumber object.apiVersion).toList
  kind : '.' ∉ object.kind.toList

end Object

namespace PathLayout

variable {a b object : Object} {layout : PathLayout} {p q s t : String}

/-! ## Sections

A well-known kind has a section of its own, whatever the group and version; every other kind has one that
is put together from group, kind and version. The first word of a section tells the two apart, since no
well-known kind has custom resources for its section. -/

theorem sectionPath_injective {a b : ResourceKind} (h : a.sectionPath = b.sectionPath) : a = b := by
  revert h
  cases a <;> cases b <;> decide

theorem sectionPath_ne_custom (kind : ResourceKind) (rest : String) :
    kind.sectionPath ≠ "custom-resources/" ++ rest := by
  intro h
  -- no section begins with these two letters
  have hfirst : kind.sectionPath.toList.take 2 = ['c', 'u'] := by simp [h]
  exact absurd hfirst (by cases kind <;> decide)

theorem sectionOf_of_isKind {kind : ResourceKind} (h : object.isKind kind = true) :
    sectionOf object = kind.sectionPath := by
  rw [sectionOf, Object.isKind_iff.1 h]

theorem sectionOf_of_none (h : ResourceKind.ofGroupKind? object.groupKind = none) :
    sectionOf object = "custom-resources/" ++
      (object.groupKind.text ++ "/" ++ apiVersionNumber object.apiVersion) := by
  rw [sectionOf, h]
  simp only [String.append_assoc]

/-- The section of a well-known kind is not that of an object of any other kind. -/
theorem not_sharesType {kind : ResourceKind} (ha : a.isKind kind = true)
    (hb : ResourceKind.ofGroupKind? b.groupKind = none) :
    sectionOf a ≠ sectionOf b ∧ ¬ a.SharesType b := by
  constructor
  · rw [sectionOf_of_isKind ha, sectionOf_of_none hb]
    exact sectionPath_ne_custom kind _
  · rintro (⟨other, -, hother⟩ | ⟨hgk, -⟩)
    · simp [Object.isKind_iff.1 hother] at hb
    · simp [← hgk, Object.isKind_iff.1 ha] at hb

/-- **A section stands for one type.** -/
theorem sectionOf_eq_iff (ha : a.Separable) (hb : b.Separable) :
    sectionOf a = sectionOf b ↔ a.SharesType b := by
  -- both of well-known kinds, or one of them, or neither
  cases hka : ResourceKind.ofGroupKind? a.groupKind with
  | some kindA =>
    have hisA := Object.isKind_iff.2 hka
    cases hkb : ResourceKind.ofGroupKind? b.groupKind with
    | some kindB =>
      have hisB := Object.isKind_iff.2 hkb
      rw [sectionOf_of_isKind hisA, sectionOf_of_isKind hisB]
      constructor
      · intro h
        cases sectionPath_injective h
        exact Or.inl ⟨kindA, hisA, hisB⟩
      · rintro (⟨kind, hisA', hisB'⟩ | ⟨hgk, -⟩)
        · rw [Object.eq_of_isKind hisA hisA', Object.eq_of_isKind hisB hisB']
        · rw [hgk, hkb] at hka
          rw [Option.some.inj hka]
    | none =>
      obtain ⟨hsection, htype⟩ := not_sharesType hisA hkb
      exact iff_of_false hsection htype
  | none =>
    cases hkb : ResourceKind.ofGroupKind? b.groupKind with
    | some kindB =>
      obtain ⟨hsection, htype⟩ := not_sharesType (Object.isKind_iff.2 hkb) hka
      exact iff_of_false hsection.symm fun h => htype h.symm
    | none =>
      have hknown : ¬ ∃ kind, a.isKind kind = true ∧ b.isKind kind = true := by
        rintro ⟨kind, hisA, -⟩
        simp [Object.isKind_iff.1 hisA] at hka
      rw [sectionOf_of_none hka, sectionOf_of_none hkb, String.append_right_inj,
        Text.cut_last rfl ha.version hb.version, GroupKind.text_inj ha.kind hb.kind]
      exact (or_iff_right hknown).symm

/-! ## Paths

A path is cut twice: at its last slash, behind which stands the name, and behind the namespace, which ends
at the next slash. Neither part has a slash of its own, and so both cuts are the only ones. -/

/-- What stands before the section: the prefix, and the namespace if there is one. -/
def root (layout : PathLayout) (space : String) : String :=
  if space = "" then layout.clusterPrefix else layout.prefixPath ++ "/namespace/" ++ space

theorem path_eq_ok (h : layout.path object = .ok p) : ∃ name, object.metadata.name = some name ∧
    p = layout.root (object.namespaceName.getD "") ++ "/" ++ sectionOf object ++ "/" ++ name := by
  unfold path at h
  split at h
  · cases h
  · split at h
    · cases h
    · next name hname =>
      obtain ⟨hname, -⟩ := Option.filter_eq_some_iff.1 hname
      refine ⟨name, hname, ?_⟩
      unfold root
      split at h
      · next space hspace =>
        obtain ⟨hspace, hsome⟩ := Option.filter_eq_some_iff.1 hspace
        cases h
        rw [hspace, if_neg (by simpa using hsome)]
        rfl
      · next hspace =>
        cases h
        -- an empty namespace is no namespace
        have hempty : object.namespaceName.getD "" = "" := by
          cases hn : object.namespaceName with
          | none => rfl
          | some space => simpa [hn] using hspace
        rw [if_pos hempty]

/-- **Before the section stands one namespace.** -/
theorem root_append_inj (hs : '/' ∉ s.toList) (ht : '/' ∉ t.toList) :
    standard.root s ++ "/" ++ p = standard.root t ++ "/" ++ q ↔ s = t ∧ p = q := by
  -- the two prefixes differ in their second character
  have hprefixes : ∀ space p q : String,
      "/cluster-overview" ++ "/" ++ p ≠ "/overview" ++ "/namespace/" ++ space ++ "/" ++ q := by
    intro space p q h
    have hsecond := congrArg (fun path => path.toList.take 2) h
    simp at hsecond
  simp only [root, standard]
  split
  · next hsempty =>
    subst hsempty
    split
    · next htempty =>
      subst htempty
      rw [String.append_right_inj, and_iff_right rfl]
    · next htsome => exact iff_of_false (hprefixes t p q) fun h => htsome h.1.symm
  · next hssome =>
    split
    · next htempty =>
      subst htempty
      exact iff_of_false (hprefixes s q p).symm fun h => hssome h.1
    · have hassoc : ∀ space rest : String, "/overview" ++ "/namespace/" ++ space ++ "/" ++ rest =
          "/overview" ++ "/namespace/" ++ (space ++ "/" ++ rest) := fun space rest => by
        simp only [String.append_assoc]
      rw [hassoc, hassoc, String.append_right_inj, Text.cut_first rfl hs ht]

/-- **A path stands for one namespace, one section and one name.** -/
theorem path_eq_iff (ha : a.Separable) (hb : b.Separable) (hp : standard.path a = .ok p)
    (hq : standard.path b = .ok q) : p = q ↔ a.metadata.name = b.metadata.name ∧
      a.namespaceName.getD "" = b.namespaceName.getD "" ∧ sectionOf a = sectionOf b := by
  obtain ⟨nameA, hnameA, rfl⟩ := path_eq_ok hp
  obtain ⟨nameB, hnameB, rfl⟩ := path_eq_ok hq
  -- first the name, then the namespace; what is left are the sections
  rw [Text.cut_last rfl (ha.name nameA hnameA) (hb.name nameB hnameB),
    root_append_inj ha.space hb.space, hnameA, hnameB, Option.some.injEq, and_comm]

/-- **Paths identify objects.** Two objects that have paths, and whose names, namespaces, versions and kinds
do not contain what separates them, have the same path exactly if they have the same name, the same
namespace, and the same well-known kind or else the same group, kind and version. -/
theorem path_eq_iff_alike (ha : a.Separable) (hb : b.Separable) (hp : standard.path a = .ok p)
    (hq : standard.path b = .ok q) : p = q ↔ a.Alike b := by
  rw [path_eq_iff ha hb hp hq, sectionOf_eq_iff ha hb]
  exact ⟨fun ⟨hname, hspace, htype⟩ => ⟨hname, hspace, htype⟩,
    fun h => ⟨h.name, h.space, h.type⟩⟩

/-- A deployment has one path in the group that once served its kind and in the one that does now, and
another one in a group that never did. -/
theorem path_eq_iff_alike_of_deployments :
    Sample.legacy.Separable ∧ (Sample.served "apps/v1").Separable ∧
      (Sample.served "example.com/v1").Separable ∧
      standard.path Sample.legacy = .ok "/overview/namespace/default/workloads/deployments/web" ∧
      standard.path (Sample.served "apps/v1") =
        .ok "/overview/namespace/default/workloads/deployments/web" ∧
      standard.path (Sample.served "example.com/v1") =
        .ok "/overview/namespace/default/custom-resources/Deployment.example.com/v1/web" ∧
      Sample.legacy.Alike (Sample.served "apps/v1") ∧
      ¬ Sample.legacy.Alike (Sample.served "example.com/v1") := by
  have hname : ∀ name ∈ Sample.legacy.metadata.name, '/' ∉ name.toList := by
    rintro _ ⟨⟩
    decide
  have hlegacy : Sample.legacy.Separable := ⟨hname, by decide, by decide, by decide⟩
  have hcurrent : (Sample.served "apps/v1").Separable := ⟨hname, by decide, by decide, by decide⟩
  have hforeign : (Sample.served "example.com/v1").Separable :=
    ⟨hname, by decide, by decide, by decide⟩
  have hp : standard.path Sample.legacy =
    .ok "/overview/namespace/default/workloads/deployments/web" := rfl
  have hq : standard.path (Sample.served "apps/v1") =
    .ok "/overview/namespace/default/workloads/deployments/web" := rfl
  have hr : standard.path (Sample.served "example.com/v1") =
    .ok "/overview/namespace/default/custom-resources/Deployment.example.com/v1/web" := rfl
  -- of three paths the first two agree, and the claim turns that into what the objects share
  refine ⟨hlegacy, hcurrent, hforeign, hp, hq, hr, ?_, fun h => ?_⟩
  · exact (path_eq_iff_alike hlegacy hcurrent hp hq).1 rfl
  · exact absurd ((path_eq_iff_alike hlegacy hforeign hp hr).2 h) (by decide)

end PathLayout

end ClusterGraph
