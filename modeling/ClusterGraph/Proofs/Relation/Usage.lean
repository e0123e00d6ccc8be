import ClusterGraph.Proofs.Relation.Queries
import ClusterGraph.Proofs.Relation.Stranger
import ClusterGraph.Proofs.Sample
import ClusterGraph.Proofs.Traversal.Reach

/-!
# Use seen from both ends

A service finds its pods with a list of all pods that carry its selector; a pod lists the services and
tests the selector of each. An ingress looks the service behind each of its backends up by name; a service
lists the ingresses and tests their backends. In a store in which all objects have a namespace and no two
share their group, kind, namespace and name, the two ends come to the same result:

* **`mem_selectedPods_iff`**, **`mem_selectingServices_iff`**, **`mem_backendServices_iff`**,
  **`mem_ingressesFor_iff`** — what each of the four questions finds.
* **`use_seen_from_both_ends`** — what one end finds, the other one does, and the visit of either reports
  the edge from the user to what it uses.
-/

namespace ClusterGraph

/-- What tells the objects of a cluster apart: the group and kind, the namespace and the name. -/
def Object.place (object : Object) : GroupKind × Option String × String :=
  (object.groupKind, object.namespaceName, object.nameAny)

namespace Store

/-- All objects of the store have a namespace, and no two of them have the same place. -/
structure Placed (store : Store) : Prop where
  namespaced : ∀ object ∈ store.objects, object.namespaceName.isSome = true
  unique : ∀ a ∈ store.objects, ∀ b ∈ store.objects, a.place = b.place → a = b

variable {store : Store} {service pod ingress : Object} {pods services ingresses : List Object}

/-! ## What the questions find

Two of the questions are answered with a list that the other end is in or not, two with a list that is
tested afterwards. Put as equivalences, each says that the object is in the store, is in the right place,
and that a test on labels or names holds. -/

theorem mem_selectedPods_iff (h : store.selectedPods service = .ok pods) :
    pod ∈ pods ↔ pod ∈ store.objects ∧
      (ObjectKey.every service.namespaceName "v1" "Pod").describes pod = true ∧
      ∃ view, service.asService = .ok view ∧ selects view.selector pod.labels = true := by
  obtain ⟨view, hv, h⟩ := bind_eq_ok.1 h
  rw [mapError_eq_ok.1 hv]
  split at h
  · next hempty =>
    -- the empty selector picks nothing, neither here nor in a test
    cases h
    simp [selects, List.isEmpty_iff.1 hempty]
  · next hsome =>
    have hselects : selects view.selector pod.labels = carries pod.labels view.selector := by
      rw [selects, Bool.eq_false_iff.2 hsome]
      rfl
    rw [mem_fetchAll_iff h, ObjectKey.describes_withSelector_iff, ← hselects]
    simp

theorem mem_selectingServices_iff (h : store.selectingServices pod = .ok services) :
    service ∈ services ↔ service ∈ store.objects ∧
      (ObjectKey.every pod.namespaceName "v1" "Service").describes service = true ∧
      ∃ view, service.asService = .ok view ∧ selects view.selector pod.labels = true := by
  obtain ⟨listed, hl, h⟩ := bind_eq_ok.1 h
  rw [mem_keepViewed_iff h, mem_fetchAll_iff hl, and_assoc]

theorem mem_backendServices_iff (h : store.backendServices ingress = .ok services) :
    service ∈ services ↔ ∃ view, ingress.asIngress = .ok view ∧ ∃ name ∈ backendNames view,
      store.find? (.one ingress.namespaceName "v1" "Service" name) = some service := by
  obtain ⟨view, hv, h⟩ := bind_eq_ok.1 h
  rw [mapError_eq_ok.1 hv, mem_fetchNamed_iff h]
  simp

theorem mem_ingressesFor_iff (h : store.ingressesFor service = .ok ingresses) :
    ingress ∈ ingresses ↔ ingress ∈ store.objects ∧
      (ObjectKey.every service.namespaceName ResourceKind.ingress.apiVersion
        ResourceKind.ingress.name).describes ingress = true ∧
      ∃ view, ingress.asIngress = .ok view ∧ service.nameAny ∈ backendNames view := by
  obtain ⟨listed, hl, h⟩ := bind_eq_ok.1 h
  rw [mem_keepViewed_iff h, mem_fetchAll_iff hl, and_assoc]
  simp only [List.contains_iff_mem]

theorem conforms_of_asIngress {view : IngressView} (h : ingress.asIngress = .ok view) :
    ingress.conforms .ingress = .ok () := by
  obtain ⟨_, hc, _⟩ := bind_eq_ok.1 h
  exact hc

/-- What a pod mentions by name is a config map, a secret or an account. -/
theorem not_isKind_service_of_mem_dependenciesOf {used : List Object}
    (h : store.dependenciesOf pod = .ok used) (hm : service ∈ used) :
    ¬ service.isKind .service = true := by
  obtain ⟨view, _, h⟩ := bind_eq_ok.1 h
  obtain ⟨key, hkey, hfind⟩ := (mem_fetchNamed_iff h).1 hm
  obtain ⟨reference, href, rfl⟩ := List.mem_map.1 hkey
  have hname : service.kind = reference.kind.name :=
    ObjectKey.kind_of_describes (ObjectKey.describes_one_iff.1 (List.find?_some hfind)).1
  -- the kinds that a pod can mention are listed, and services are not among them
  intro hks
  have hkind : reference.kind = .service :=
    ResourceKind.name_injective (hname.symm.trans (Object.kind_of_isKind hks))
  obtain ⟨kind, hlisted, href⟩ := List.mem_flatMap.1 href
  obtain ⟨name, -, rfl⟩ := List.mem_map.1 href
  rw [show kind = .service from hkind] at hlisted
  simp at hlisted

/-! ## The two ends find each other

What is left between the equivalences of the two ends is the place. It is the same seen from either end,
because namespaces are there and an object that is looked up by name is the only one with that name. -/

namespace Placed

/-- Objects with a namespace are listed by each other only if it is the same one. -/
theorem describes_every_iff (hplaced : store.Placed) {visited object : Object}
    (hm : visited ∈ store.objects) {apiVersion kind : String} :
    (ObjectKey.every visited.namespaceName apiVersion kind).describes object = true ↔
      object.groupKind = .ofApiVersion apiVersion kind ∧
        object.namespaceName = visited.namespaceName := by
  obtain ⟨space, hspace⟩ := Option.isSome_iff_exists.1 (hplaced.namespaced visited hm)
  rw [ObjectKey.describes_every_iff, hspace]
  simp

/-- No object hides another one that is looked up by name. -/
theorem find?_one_iff (hplaced : store.Placed) {visited object : Object}
    (hm : visited ∈ store.objects) {apiVersion kind name : String} :
    store.find? (.one visited.namespaceName apiVersion kind name) = some object ↔
      object ∈ store.objects ∧
        (ObjectKey.one visited.namespaceName apiVersion kind name).describes object = true := by
  -- the first object with the name is found, and there is no other one for it to hide
  refine ⟨fun h => ⟨List.mem_of_find?_eq_some h, List.find?_some h⟩, fun ⟨hin, hdescribes⟩ => ?_⟩
  have hsome : (store.find? (.one visited.namespaceName apiVersion kind name)).isSome = true :=
    List.find?_isSome.2 ⟨object, hin, hdescribes⟩
  obtain ⟨first, hfirst⟩ := Option.isSome_iff_exists.1 hsome
  -- what a key with a namespace and a name describes has one place only
  have hplace : ∀ {found : Object},
      (ObjectKey.one visited.namespaceName apiVersion kind name).describes found = true →
      found.place = (.ofApiVersion apiVersion kind, visited.namespaceName, name) := by
    intro found hfound
    obtain ⟨hevery, hname⟩ := ObjectKey.describes_one_iff.1 hfound
    obtain ⟨hgk, hspace⟩ := (hplaced.describes_every_iff hm).1 hevery
    rw [Object.place, hgk, hspace, hname]
  have hsame : first.place = object.place :=
    (hplace (List.find?_some hfirst)).trans (hplace hdescribes).symm
  rw [hfirst, hplaced.unique first (List.mem_of_find?_eq_some hfirst) object hin hsame]

variable (hplaced : store.Placed) (hservice : service ∈ store.objects)
  (hks : service.isKind .service = true)

include hplaced hservice hks

theorem mem_selectedPods_iff_mem_selectingServices (hpod : pod ∈ store.objects)
    (hkp : pod.isKind .pod = true) (hpods : store.selectedPods service = .ok pods)
    (hservices : store.selectingServices pod = .ok services) : pod ∈ pods ↔ service ∈ services := by
  have hgp := Object.groupKind_of_isKind hkp rfl
  have hgs := Object.groupKind_of_isKind hks rfl
  rw [mem_selectedPods_iff hpods, mem_selectingServices_iff hservices,
    hplaced.describes_every_iff hservice, hplaced.describes_every_iff hpod]
  -- the selector is read off the service from either end; the kinds say what was listed
  constructor
  · rintro ⟨-, ⟨-, hspace⟩, hselects⟩
    exact ⟨hservice, ⟨hgs, hspace.symm⟩, hselects⟩
  · rintro ⟨-, ⟨-, hspace⟩, hselects⟩
    exact ⟨hpod, ⟨hgp, hspace.symm⟩, hselects⟩

theorem mem_backendServices_iff_mem_ingressesFor (hingress : ingress ∈ store.objects)
    (hki : ingress.isKind .ingress = true) (hservices : store.backendServices ingress = .ok services)
    (hingresses : store.ingressesFor service = .ok ingresses) :
    service ∈ services ↔ ingress ∈ ingresses := by
  have hgs := Object.groupKind_of_isKind hks rfl
  rw [mem_backendServices_iff hservices, mem_ingressesFor_iff hingresses,
    hplaced.describes_every_iff hservice]
  -- the ingress asks by name and the service tests names, so that only the place has to be carried over
  constructor
  · rintro ⟨view, hv, name, hname, hfind⟩
    obtain ⟨hevery, rfl⟩ :=
      ObjectKey.describes_one_iff.1 ((hplaced.find?_one_iff hingress).1 hfind).2
    have hspace := ((hplaced.describes_every_iff hingress).1 hevery).2
    -- an ingress that can be read is there in the preferred version, and so in the group asked for
    have hgi : ingress.groupKind = .ofApiVersion ResourceKind.ingress.apiVersion
        ResourceKind.ingress.name := by
      have hversion := Object.apiVersion_of_conforms hki (conforms_of_asIngress hv)
      rw [Object.groupKind, Object.group, hversion, Object.kind_of_isKind hki]
      rfl
    exact ⟨hingress, ⟨hgi, hspace.symm⟩, view, hv, hname⟩
  · rintro ⟨-, ⟨-, hspace⟩, view, hv, hname⟩
    refine ⟨view, hv, service.nameAny, hname, (hplaced.find?_one_iff hingress).2 ⟨hservice, ?_⟩⟩
    exact ObjectKey.describes_one_iff.2
      ⟨(hplaced.describes_every_iff hingress).2 ⟨hgs, hspace.symm⟩, rfl⟩

end Placed

/-! ## What a visit reports

The edges of a visit beyond those of ownership, for each of the three kinds that use something or are
used. That none leads the wrong way comes from the kinds: a pod is no ingress, and nothing that a pod
mentions by name is a service. -/

theorem edges_of_usage_service {usage : List Relation} (hk : service.isKind .service = true)
    (h : store.usageRelations service = .ok usage) :
    ∃ pods ingresses, store.selectedPods service = .ok pods ∧
      store.ingressesFor service = .ok ingresses ∧
      ∀ parent child, .edge parent child ∈ usage.map (·.call service) ↔
        parent = service ∧ child ∈ pods ∨ child = service ∧ parent ∈ ingresses := by
  obtain ⟨pods, ingresses, hp, hi, rfl⟩ := exists_of_usageRelations_service hk h
  refine ⟨pods, ingresses, hp, hi, fun parent child => ?_⟩
  simp [Relation.call, Relation.ends, eq_comm, and_comm]

theorem edges_of_usage_ingress {usage : List Relation} (hk : ingress.isKind .ingress = true)
    (h : store.usageRelations ingress = .ok usage) :
    ∃ services, store.backendServices ingress = .ok services ∧
      ∀ parent child, .edge parent child ∈ usage.map (·.call ingress) ↔
        parent = ingress ∧ child ∈ services := by
  -- the cases of the question are tried in order, and an ingress is no service
  have hs : ¬ ingress.isKind .service = true := fun hs => nomatch Object.eq_of_isKind hk hs
  obtain ⟨services, hb, rfl⟩ := exists_of_usageRelations_ingress hs hk h
  refine ⟨services, hb, fun parent child => ?_⟩
  simp [Relation.call, Relation.ends, eq_comm, and_comm]

theorem edges_of_usage_pod {usage : List Relation} (hk : pod.isKind .pod = true)
    (h : store.usageRelations pod = .ok usage) :
    ∃ services used, store.selectingServices pod = .ok services ∧
      store.dependenciesOf pod = .ok used ∧
      ∀ parent child, .edge parent child ∈ usage.map (·.call pod) ↔
        child = pod ∧ parent ∈ services ∨ parent = pod ∧ child ∈ used := by
  have hs : ¬ pod.isKind .service = true := fun hs => nomatch Object.eq_of_isKind hk hs
  have hi : ¬ pod.isKind .ingress = true := fun hi => nomatch Object.eq_of_isKind hk hi
  obtain ⟨services, used, hb, hu, rfl⟩ := exists_of_usageRelations_pod hs hi hk h
  refine ⟨services, used, hb, hu, fun parent child => ?_⟩
  simp [Relation.call, Relation.ends, eq_comm, and_comm]

/-- From whichever end it is visited, the use of one object by another is reported as the edge from the
user, exactly if it is found; and the opposite edge is not reported for use. -/
def ReportsUse (store : Store) (user used : Object) (found : Prop) : Prop :=
  ∀ visited ∈ [user, used], ∀ relations, store.relations visited = .ok relations →
    (found → .edge user used ∈ visitCalls visited relations) ∧
    ∃ usage, store.usageRelations visited = .ok usage ∧
      (.edge user used ∈ usage.map (·.call visited) ↔ found) ∧
        .edge used user ∉ usage.map (·.call visited)

theorem reportsUse_of_usage {user used : Object} {found : Prop}
    (h : ∀ visited ∈ [user, used], ∀ usage, store.usageRelations visited = .ok usage →
      (.edge user used ∈ usage.map (·.call visited) ↔ found) ∧
        .edge used user ∉ usage.map (·.call visited)) : store.ReportsUse user used found := by
  intro visited hm relations hr
  obtain ⟨owners, children, usage, -, -, hu, rfl⟩ := exists_of_relations hr
  obtain ⟨hiff, hnot⟩ := h visited hm usage hu
  refine ⟨fun hfound => ?_, usage, hu, hiff, hnot⟩
  obtain ⟨relation, hin, hcall⟩ := List.mem_map.1 (hiff.2 hfound)
  -- the relations of use come after those of ownership
  exact edge_mem_visitCalls_iff.2 ⟨relation, List.mem_append_right _ hin, hcall⟩

theorem reportsUse_of_selects (hks : service.isKind .service = true) (hkp : pod.isKind .pod = true)
    (hpods : store.selectedPods service = .ok pods)
    (hservices : store.selectingServices pod = .ok services) (hends : pod ∈ pods ↔ service ∈ services) :
    store.ReportsUse service pod (pod ∈ pods) := by
  have hne : service ≠ pod := by
    rintro rfl
    cases Object.eq_of_isKind hks hkp
  refine reportsUse_of_usage fun visited hm usage hu => ?_
  rcases List.mem_pair.1 hm with rfl | rfl
  · obtain ⟨found, ingresses, hfound, hi, hedges⟩ := edges_of_usage_service hks hu
    obtain rfl : pods = found := Except.ok.inj (hpods.symm.trans hfound)
    -- a pod is no ingress
    have hin : pod ∉ ingresses := fun hin => by
      have hkind := ObjectKey.kind_of_describes ((mem_ingressesFor_iff hi).1 hin).2.1
      rw [Object.kind_of_isKind hkp] at hkind
      exact absurd hkind (by decide)
    simp [hedges, hne.symm, hin]
  · obtain ⟨found, used, hfound, hused, hedges⟩ := edges_of_usage_pod hkp hu
    obtain rfl : services = found := Except.ok.inj (hservices.symm.trans hfound)
    have hin : service ∉ used := fun hin => not_isKind_service_of_mem_dependenciesOf hused hin hks
    simp [hedges, hne, hin, hends]

theorem reportsUse_of_backend (hks : service.isKind .service = true)
    (hki : ingress.isKind .ingress = true) (hservices : store.backendServices ingress = .ok services)
    (hingresses : store.ingressesFor service = .ok ingresses)
    (hends : service ∈ services ↔ ingress ∈ ingresses) :
    store.ReportsUse ingress service (service ∈ services) := by
  have hne : service ≠ ingress := by
    rintro rfl
    cases Object.eq_of_isKind hks hki
  refine reportsUse_of_usage fun visited hm usage hu => ?_
  rcases List.mem_pair.1 hm with rfl | rfl
  · obtain ⟨found, hfound, hedges⟩ := edges_of_usage_ingress hki hu
    obtain rfl : services = found := Except.ok.inj (hservices.symm.trans hfound)
    simp [hedges, hne]
  · obtain ⟨pods, found, hp, hfound, hedges⟩ := edges_of_usage_service hks hu
    obtain rfl : ingresses = found := Except.ok.inj (hingresses.symm.trans hfound)
    -- an ingress is no pod
    have hin : ingress ∉ pods := fun hin => by
      have hkind := ObjectKey.kind_of_describes ((mem_selectedPods_iff hp).1 hin).2.1
      rw [Object.kind_of_isKind hki] at hkind
      exact absurd hkind (by decide)
    simp [hedges, hne.symm, hin, hends]

/-! ## Both ends

For each pair of kinds the ends find each other, and from that the report of either is the same edge. -/

/-- **The two ends of use agree.** In a store in which all objects have a namespace and no two have the
same place, a service finds a pod by its selector exactly if the pod finds the service, and an ingress
finds a service behind it exactly if the service finds the ingress, wherever the questions are answered.
From either end the use is then reported as the one edge from the user to what it uses. -/
theorem use_seen_from_both_ends (hplaced : store.Placed) (hservice : service ∈ store.objects)
    (hks : service.isKind .service = true) :
    (∀ pod ∈ store.objects, pod.isKind .pod = true → ∀ pods services,
      store.selectedPods service = .ok pods → store.selectingServices pod = .ok services →
        (pod ∈ pods ↔ service ∈ services) ∧ store.ReportsUse service pod (pod ∈ pods)) ∧
    ∀ ingress ∈ store.objects, ingress.isKind .ingress = true → ∀ services ingresses,
      store.backendServices ingress = .ok services → store.ingressesFor service = .ok ingresses →
        (service ∈ services ↔ ingress ∈ ingresses) ∧
          store.ReportsUse ingress service (service ∈ services) := by
  constructor
  · intro pod hpod hkp pods services hpods hservices
    have hends :=
      hplaced.mem_selectedPods_iff_mem_selectingServices hservice hks hpod hkp hpods hservices
    exact ⟨hends, reportsUse_of_selects hks hkp hpods hservices hends⟩
  · intro ingress hingress hki services ingresses hservices hingresses
    have hends :=
      hplaced.mem_backendServices_iff_mem_ingressesFor hservice hks hingress hki hservices hingresses
    exact ⟨hends, reportsUse_of_backend hks hki hservices hingresses hends⟩

theorem placed_exposed : Sample.exposed.Placed where
  namespaced := by
    simp [Sample.exposed, Sample.service, Sample.pod, Sample.ingress, Object.namespaceName]
  unique := by
    have hnd : (Sample.exposed.objects.map Object.place).Nodup := by decide
    exact fun a ha b hb => List.inj_on_of_nodup_map hnd ha hb

/-- The service picks the pod, and the ingress leads to the service; both are reported from either end. -/
theorem use_seen_from_both_ends_of_exposed :
    ∃ ofService ofPod ofIngress, Sample.exposed.relations Sample.service = .ok ofService ∧
      Sample.exposed.relations (Sample.pod "p1") = .ok ofPod ∧
      Sample.exposed.relations Sample.ingress = .ok ofIngress ∧
      .edge Sample.service (Sample.pod "p1") ∈ visitCalls Sample.service ofService ∧
      .edge Sample.service (Sample.pod "p1") ∈ visitCalls (Sample.pod "p1") ofPod ∧
      .edge Sample.ingress Sample.service ∈ visitCalls Sample.service ofService ∧
      .edge Sample.ingress Sample.service ∈ visitCalls Sample.ingress ofIngress := by
  have hservice : Sample.service ∈ Sample.exposed.objects := by simp [Sample.exposed]
  have hpod : Sample.pod "p1" ∈ Sample.exposed.objects := by simp [Sample.exposed]
  have hingress : Sample.ingress ∈ Sample.exposed.objects := by simp [Sample.exposed]
  obtain ⟨huse, hbackend⟩ := use_seen_from_both_ends placed_exposed hservice (by decide)
  -- every question is answered
  obtain ⟨pods, hpods⟩ : ∃ pods, Sample.exposed.selectedPods Sample.service = .ok pods :=
    Sample.exists_eq_ok (by decide +kernel)
  obtain ⟨services, hservices⟩ :
      ∃ services, Sample.exposed.selectingServices (Sample.pod "p1") = .ok services :=
    Sample.exists_eq_ok (by decide +kernel)
  obtain ⟨backends, hbackends⟩ :
      ∃ services, Sample.exposed.backendServices Sample.ingress = .ok services :=
    Sample.exists_eq_ok (by decide +kernel)
  obtain ⟨ingresses, hingresses⟩ :
      ∃ ingresses, Sample.exposed.ingressesFor Sample.service = .ok ingresses :=
    Sample.exists_eq_ok (by decide +kernel)
  obtain ⟨ofService, hs⟩ :
      ∃ relations, Sample.exposed.relations Sample.service = .ok relations :=
    Sample.exists_eq_ok (by decide +kernel)
  obtain ⟨ofPod, hp⟩ : ∃ relations, Sample.exposed.relations (Sample.pod "p1") = .ok relations :=
    Sample.exists_eq_ok (by decide +kernel)
  obtain ⟨ofIngress, hi⟩ :
      ∃ relations, Sample.exposed.relations Sample.ingress = .ok relations :=
    Sample.exists_eq_ok (by decide +kernel)
  have hpicked : Sample.pod "p1" ∈ pods :=
    (mem_selectedPods_iff hpods).2 ⟨hpod, by decide, _, rfl, by decide⟩
  have hlinked : Sample.ingress ∈ ingresses :=
    (mem_ingressesFor_iff hingresses).2 ⟨hingress, by decide, _, rfl, by decide +kernel⟩
  obtain ⟨-, hreports⟩ := huse _ hpod (by decide) pods services hpods hservices
  obtain ⟨hends, hreports'⟩ := hbackend _ hingress (by decide) backends ingresses hbackends hingresses
  exact ⟨ofService, ofPod, ofIngress, hs, hp, hi,
    (hreports _ (by simp) _ hs).1 hpicked, (hreports _ (by simp) _ hp).1 hpicked,
    (hreports' _ (by simp) _ hs).1 (hends.2 hlinked),
    (hreports' _ (by simp) _ hi).1 (hends.2 hlinked)⟩

end Store

end ClusterGraph
