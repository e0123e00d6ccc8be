import ClusterGraph.Proofs.Relation.Queries
import ClusterGraph.Proofs.Sample
import ClusterGraph.Proofs.Traversal.Reach

/-!
# Ownership seen from both ends

An owner finds its children by the ownership test, `Object.isOwnedBy`. The owned object finds its owners
in another way: each of its references is looked up by group, kind, namespace and name, whatever unique
identifier and version it gives. So the edge between them can be reported from one end only:

* **`owner_edge_iff_fits`** — what an object finds as its owner passes the test, and reports the edge as
  well, exactly if some reference fits it (`OwnerReference.Fits`): by its identifier, or, where that is
  missing on either side, by its very version.
* **`not_forall_owner_edge`** — not every reference that finds an owner does: an owner that was made anew
  under its old name has another identifier.
-/

namespace ClusterGraph

namespace OwnerReference

/-- The reference gives the identifier of the owner, or, where one of the two has none, describes the
owner in the version in which it is there. -/
def Fits (reference : OwnerReference) (object owner : Object) : Prop :=
  owner.uid? = some reference.uid ∨
    (reference.uid = "" ∨ owner.uid? = none) ∧ reference.apiVersion = owner.apiVersion ∧
      (reference.key object).describes owner = true

theorem names_iff {reference : OwnerReference} {owner : Object} :
    reference.names owner = true ↔ owner.uid? = some reference.uid ∨
      (reference.uid = "" ∨ owner.uid? = none) ∧ reference.kind = owner.kind ∧
        reference.name = owner.nameAny ∧ reference.apiVersion = owner.apiVersion := by
  unfold names
  cases hu : owner.uid? with
  | none => simp [and_assoc]
  | some uid =>
    -- an identifier that counts is never empty
    have hne : uid ≠ "" := by
      have hfilter := (Option.filter_eq_some_iff.1 hu).2
      simpa using hfilter
    by_cases hr : reference.uid = ""
    · simp [hr, hne, and_assoc]
    · simp [hr, @eq_comm _ uid]

end OwnerReference

namespace Store

variable {store : Store} {owned owner : Object}

/-! ## What is found

A reference is looked up as a key, which has no place for the unique identifier and reads only the group
off the version. What is found so differs from what the ownership test accepts in just these two respects,
and `Fits` names what is left to ask for. -/

theorem ownersOf_eq_ok (hs : store.refused = []) (owned : Object) :
    store.ownersOf owned =
      .ok (owned.owners.filterMap fun reference => store.find? (reference.key owned)) := by
  have hnamed : ∀ key ∈ owned.owners.map (·.key owned), key.name.isSome = true := fun key hk => by
    obtain ⟨reference, _, rfl⟩ := List.mem_map.1 hk
    rfl
  have hfound := fetchNamed_eq_ok hs owned hnamed
  rw [List.filterMap_map] at hfound
  exact hfound

/-- **An owner that is found passes the ownership test exactly if some reference fits it.** -/
theorem isOwnedBy_iff_fits {reference : OwnerReference}
    (hf : store.find? (reference.key owned) = some owner) :
    owned.isOwnedBy owner = true ↔ ∃ reference ∈ owned.owners, reference.Fits owned owner := by
  have hfound : (reference.key owned).describes owner = true := List.find?_some hf
  -- the owner is in the namespace of the owned object, by whichever reference it was found
  have hspace : ∀ space ∈ owned.namespaceName, owner.namespaceName = some space :=
    (ObjectKey.describes_every_iff.1 (ObjectKey.describes_one_iff.1 hfound).1).2
  -- reference by reference, the test and `Fits` differ in how kind and name are compared
  unfold Object.isOwnedBy
  rw [List.any_eq_true]
  refine exists_congr fun reference => and_congr_right fun _ => ?_
  rw [OwnerReference.names_iff, OwnerReference.Fits]
  refine or_congr_right (and_congr_right fun _ => ?_)
  constructor
  · rintro ⟨hkind, hname, hversion⟩
    have hgk : owner.groupKind = .ofApiVersion reference.apiVersion reference.kind := by
      rw [hkind, hversion]
      rfl
    exact ⟨hversion, ObjectKey.describes_one_iff.2
      ⟨ObjectKey.describes_every_iff.2 ⟨hgk, hspace⟩, hname.symm⟩⟩
  · rintro ⟨hversion, hdescribes⟩
    obtain ⟨hevery, hname⟩ := ObjectKey.describes_one_iff.1 hdescribes
    have hgk := (ObjectKey.describes_every_iff.1 hevery).1
    exact ⟨(congrArg GroupKind.kind hgk).symm, hname.symm, hversion⟩

/-! ## Visiting the owned object

Each owner that is found becomes a relation that comes in, before those to children and those of use. No
test stands between the lookup and the report. -/

theorem owner_edge_mem_visitCalls {relations : List Relation} {owners : List Object}
    (h : store.relations owned = .ok relations) (ho : store.ownersOf owned = .ok owners)
    (hm : owner ∈ owners) : .edge owner owned ∈ visitCalls owned relations := by
  obtain ⟨found, children, usage, hfound, _, _, rfl⟩ := exists_of_relations h
  obtain rfl : owners = found := Except.ok.inj (ho.symm.trans hfound)
  have hrel : Relation.incoming owner ∈
      owners.map Relation.incoming ++ children.map Relation.outgoing ++ usage :=
    List.mem_append_left _ (List.mem_append_left _ (List.mem_map.2 ⟨owner, hm, rfl⟩))
  exact edge_mem_visitCalls_iff.2 ⟨_, hrel, rfl⟩

/-! ## Visiting the owner

Only seven kinds of objects look for children. None of them is used by others or uses any, and none has
children of its own kind, so that an edge to a child is reported for nothing but ownership. -/

theorem usageRelations_of_childKind? {parent kind : ResourceKind}
    (hk : ResourceKind.ofGroupKind? owner.groupKind = some parent)
    (hc : childKind? parent = some kind) : store.usageRelations owner = .ok [] := by
  have hother : ∀ other, childKind? other = none → ¬ owner.isKind other = true := by
    intro other hnone hother
    rw [← Object.eq_of_isKind (Object.isKind_iff.2 hk) hother, hc] at hnone
    cases hnone
  unfold usageRelations
  rw [if_neg (hother .service rfl), if_neg (hother .ingress rfl), if_neg (hother .pod rfl)]

/-- The children that an object finds are the objects of the store that have its child kind, are in its
namespace, and pass the ownership test. -/
theorem exists_childrenOf (hs : store.refused = []) {kind : ResourceKind}
    (hk : (ResourceKind.ofGroupKind? owner.groupKind).bind childKind? = some kind) :
    ∃ children, store.childrenOf owner = .ok children ∧ ∀ child, child ∈ children ↔
      child ∈ store.objects ∧
        (ObjectKey.every owner.namespaceName kind.apiVersion kind.name).describes child = true ∧
        child.isOwnedBy owner = true := by
  refine ⟨(store.objects.filter (ObjectKey.every owner.namespaceName kind.apiVersion
    kind.name).describes).filter (·.isOwnedBy owner), ?_, fun child => ?_⟩
  · unfold childrenOf
    rw [hk]
    simp only [fetchAll_eq_ok hs]
    rfl
  · rw [List.mem_filter, List.mem_filter, and_assoc]

/-- **The edge to a child of the right kind and namespace is reported exactly if the child passes the
ownership test.** -/
theorem child_edge_iff_isOwnedBy (hs : store.refused = []) (hm : owned ∈ store.objects)
    {kind : ResourceKind}
    (hk : (ResourceKind.ofGroupKind? owner.groupKind).bind childKind? = some kind)
    (hgk : owned.groupKind = .ofApiVersion kind.apiVersion kind.name)
    (hspace : owned.namespaceName = owner.namespaceName) :
    ∃ relations, store.relations owner = .ok relations ∧
      (.edge owner owned ∈ visitCalls owner relations ↔ owned.isOwnedBy owner = true) := by
  obtain ⟨parent, hparent, hchild⟩ := Option.bind_eq_some_iff.1 hk
  obtain ⟨children, hchildren, hmem⟩ := exists_childrenOf hs hk
  have husage : store.usageRelations owner = .ok [] := usageRelations_of_childKind? hparent hchild
  have hlisted :
      (ObjectKey.every owner.namespaceName kind.apiVersion kind.name).describes owned = true := by
    rw [ObjectKey.describes_every_iff, hspace]
    exact ⟨hgk, fun space h => h⟩
  -- no kind is its own child kind, so that the object is not its own child
  have hdistinct : owned ≠ owner := by
    rintro rfl
    rw [hgk, ResourceKind.ofGroupKind?_ofApiVersion] at hparent
    obtain rfl : kind = parent := Option.some.inj hparent
    cases kind <;> cases hchild
  -- owners and children are all that there is; which of the two lists has the edge is left to see
  refine ⟨_, relations_eq_ok (ownersOf_eq_ok hs owner) hchildren husage, ?_⟩
  rw [edge_mem_visitCalls_iff, List.append_nil]
  constructor
  · rintro ⟨relation, hrel, hcall⟩
    rcases List.mem_append.1 hrel with hrel | hrel <;> obtain ⟨found, hin, rfl⟩ := List.mem_map.1 hrel
    · -- an edge from one of its own owners leads to the owner itself
      have hend : owner = owned := (Call.edge.inj hcall).2
      exact absurd hend.symm hdistinct
    · cases hcall
      exact ((hmem found).1 hin).2.2
  · intro hown
    have hin : owned ∈ children := (hmem owned).2 ⟨hm, hlisted, hown⟩
    exact ⟨.outgoing owned, List.mem_append_right _ (List.mem_map.2 ⟨owned, hin, rfl⟩), rfl⟩

/-! ## Both ends

The two lemmas about visits meet at the ownership test: the owner reports the edge if the test passes, and
the owned object reports it in any case. -/

/-- **Where the two ends of ownership agree.** An object finds as owners what its references are looked up
as, and reports an edge from each of them. Such an owner passes the ownership test exactly if some
reference fits it, and, where it looks for children of the kind and in the namespace of the object,
exactly then it reports the edge as well. -/
theorem owner_edge_iff_fits (hs : store.refused = []) (hm : owned ∈ store.objects) :
    ∃ owners, store.ownersOf owned = .ok owners ∧
      (∀ owner, owner ∈ owners ↔
        ∃ reference ∈ owned.owners, store.find? (reference.key owned) = some owner) ∧
      ∀ owner ∈ owners,
        (owned.isOwnedBy owner = true ↔ ∃ reference ∈ owned.owners, reference.Fits owned owner) ∧
        (∀ relations, store.relations owned = .ok relations →
          .edge owner owned ∈ visitCalls owned relations) ∧
        ∀ kind, (ResourceKind.ofGroupKind? owner.groupKind).bind childKind? = some kind →
          owned.groupKind = .ofApiVersion kind.apiVersion kind.name →
          owned.namespaceName = owner.namespaceName →
          ∃ relations, store.relations owner = .ok relations ∧
            (.edge owner owned ∈ visitCalls owner relations ↔
              ∃ reference ∈ owned.owners, reference.Fits owned owner) := by
  have howners := ownersOf_eq_ok hs owned
  refine ⟨_, howners, fun owner => List.mem_filterMap, fun owner hfound => ?_⟩
  obtain ⟨reference, _, hf⟩ := List.mem_filterMap.1 hfound
  have hfits := isOwnedBy_iff_fits hf
  refine ⟨hfits, fun relations hr => owner_edge_mem_visitCalls hr howners hfound, ?_⟩
  intro kind hk hgk hspace
  obtain ⟨relations, hr, hedge⟩ := child_edge_iff_isOwnedBy hs hm hk hgk hspace
  exact ⟨relations, hr, hedge.trans hfits⟩

/-- In the small cluster the reference of a pod bears the identifier of the replica set, and the edge is
reported from both ends. -/
theorem owner_edge_iff_fits_of_sample :
    Sample.store.refused = [] ∧ Sample.pod "p1" ∈ Sample.store.objects ∧
      ∃ relations, Sample.store.relations Sample.replicaSet = .ok relations ∧
        .edge Sample.replicaSet (Sample.pod "p1") ∈ visitCalls Sample.replicaSet relations := by
  have hs : Sample.store.refused = [] := rfl
  have hm : Sample.pod "p1" ∈ Sample.store.objects := by simp [Sample.store]
  refine ⟨hs, hm, ?_⟩
  obtain ⟨owners, _, hfound, hends⟩ := owner_edge_iff_fits hs hm
  have hreference : ⟨"apps/v1", "ReplicaSet", "web", "rs", some true⟩ ∈ (Sample.pod "p1").owners :=
    List.mem_singleton_self _
  have howner : Sample.replicaSet ∈ owners := (hfound _).2 ⟨_, hreference, rfl⟩
  obtain ⟨_, _, hedge⟩ := hends _ howner
  obtain ⟨relations, hr, hiff⟩ := hedge .pod rfl rfl rfl
  exact ⟨relations, hr, hiff.2 ⟨_, hreference, Or.inl rfl⟩⟩

/-- **Not every owner that is found passes the ownership test, nor is every edge to an owner reported from
both ends.** The replica set of the pod was made anew: it has another identifier than the reference of the
pod gives, under the old name. -/
theorem not_forall_owner_edge :
    (¬ ∀ (store : Store) (owned : Object), store.refused = [] → owned ∈ store.objects →
      ∀ owners, store.ownersOf owned = .ok owners → ∀ owner ∈ owners,
        owned.isOwnedBy owner = true) ∧
    ¬ ∀ (store : Store) (owned : Object), store.refused = [] → owned ∈ store.objects →
      ∀ owners, store.ownersOf owned = .ok owners → ∀ owner ∈ owners,
        ∀ kind, (ResourceKind.ofGroupKind? owner.groupKind).bind childKind? = some kind →
          owned.groupKind = .ofApiVersion kind.apiVersion kind.name →
          owned.namespaceName = owner.namespaceName →
          ∀ ofOwned ofOwner, store.relations owned = .ok ofOwned →
            store.relations owner = .ok ofOwner →
            .edge owner owned ∈ visitCalls owned ofOwned →
            .edge owner owned ∈ visitCalls owner ofOwner := by
  have hs : Sample.renewal.refused = [] := rfl
  have hm : Sample.pod "p1" ∈ Sample.renewal.objects := by simp [Sample.renewal]
  have howners : Sample.renewal.ownersOf (Sample.pod "p1") = .ok [Sample.renewed] :=
    ownersOf_eq_ok hs _
  have hstale : (Sample.pod "p1").isOwnedBy Sample.renewed = false := by decide
  constructor
  · intro hall
    have hown := hall Sample.renewal (Sample.pod "p1") hs hm _ howners Sample.renewed
      (List.mem_singleton_self _)
    rw [hstale] at hown
    cases hown
  · intro hall
    obtain ⟨ofOwned, hr⟩ : ∃ relations,
        Sample.renewal.relations (Sample.pod "p1") = .ok relations :=
      Sample.exists_eq_ok (by decide +kernel)
    have hkind : (ResourceKind.ofGroupKind? Sample.renewed.groupKind).bind childKind? =
        some .pod := rfl
    -- the replica set lists its pods and tests each of them, and this one fails the test
    obtain ⟨ofOwner, hr', hedge⟩ := child_edge_iff_isOwnedBy hs hm hkind rfl rfl
    have hup := owner_edge_mem_visitCalls hr howners (List.mem_singleton_self _)
    have hdown := hall Sample.renewal (Sample.pod "p1") hs hm _ howners Sample.renewed
      (List.mem_singleton_self _) .pod hkind rfl rfl ofOwned ofOwner hr hr' hup
    rw [hedge, hstale] at hdown
    cases hdown

end Store

end ClusterGraph
