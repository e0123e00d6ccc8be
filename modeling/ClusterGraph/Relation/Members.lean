import ClusterGraph.Fallible
import ClusterGraph.Relation

/-!
Related objects come from the store.

Whatever `Store.relations` finds is in the answer to one of seven questions (`Finds`), and so it is one of
the objects of the store. A traversal therefore meets no object outside the store but the one that it
starts from.
-/

namespace ClusterGraph.Store

theorem mem_of_fetch {store : Store} {visited object : Object} {key : ObjectKey}
    (h : store.fetch visited key = .ok (some object)) : object ∈ store.objects :=
  mem_of_get (mapError_eq_ok.1 h)

theorem mem_of_fetchAll {store : Store} {visited object : Object} {key : ObjectKey}
    {objects : List Object} (h : store.fetchAll visited key = .ok objects) (hm : object ∈ objects) :
    object ∈ store.objects :=
  mem_of_list (mapError_eq_ok.1 h) hm

theorem mem_of_fetchNamed {store : Store} {visited object : Object} {keys : List ObjectKey}
    {objects : List Object} (h : store.fetchNamed visited keys = .ok objects)
    (hm : object ∈ objects) : object ∈ store.objects := by
  obtain ⟨found, hk, h⟩ := bind_eq_ok.1 h
  cases h
  obtain ⟨o, ho, rfl⟩ := List.mem_filterMap.1 hm
  obtain ⟨key, _, hf⟩ := (mem_mapM_iff hk).1 ho
  exact mem_of_fetch hf

theorem mem_of_keepViewed {α : Type} {objects kept : List Object}
    {view : Object → Except Json.Mismatch α} {test : α → Bool}
    (h : keepViewed objects view test = .ok kept) {object : Object} (hm : object ∈ kept) :
    object ∈ objects := by
  obtain ⟨tested, hk, h⟩ := bind_eq_ok.1 h
  cases h
  obtain ⟨⟨o, b⟩, ho, rfl⟩ := List.mem_map.1 hm
  obtain ⟨item, hi, hf⟩ := (mem_mapM_iff hk).1 (List.mem_filter.1 ho).1
  obtain ⟨seen, _, hf⟩ := bind_eq_ok.1 hf
  cases hf
  exact hi

theorem mem_of_ownersOf {store : Store} {object found : Object} {objects : List Object}
    (h : store.ownersOf object = .ok objects) (hm : found ∈ objects) : found ∈ store.objects :=
  mem_of_fetchNamed h hm

theorem mem_of_childrenOf {store : Store} {object found : Object} {objects : List Object}
    (h : store.childrenOf object = .ok objects) (hm : found ∈ objects) : found ∈ store.objects := by
  unfold childrenOf at h
  split at h
  · cases h
    cases hm
  · obtain ⟨candidates, hl, h⟩ := bind_eq_ok.1 h
    cases h
    exact mem_of_fetchAll hl (List.mem_filter.1 hm).1

theorem mem_of_selectedPods {store : Store} {object found : Object} {objects : List Object}
    (h : store.selectedPods object = .ok objects) (hm : found ∈ objects) :
    found ∈ store.objects := by
  obtain ⟨view, _, h⟩ := bind_eq_ok.1 h
  split at h
  · cases h
    cases hm
  · exact mem_of_fetchAll h hm

theorem mem_of_selectingServices {store : Store} {object found : Object} {objects : List Object}
    (h : store.selectingServices object = .ok objects) (hm : found ∈ objects) :
    found ∈ store.objects := by
  obtain ⟨services, hl, h⟩ := bind_eq_ok.1 h
  exact mem_of_fetchAll hl (mem_of_keepViewed h hm)

theorem mem_of_backendServices {store : Store} {object found : Object} {objects : List Object}
    (h : store.backendServices object = .ok objects) (hm : found ∈ objects) :
    found ∈ store.objects := by
  obtain ⟨view, _, h⟩ := bind_eq_ok.1 h
  exact mem_of_fetchNamed h hm

theorem mem_of_ingressesFor {store : Store} {object found : Object} {objects : List Object}
    (h : store.ingressesFor object = .ok objects) (hm : found ∈ objects) :
    found ∈ store.objects := by
  obtain ⟨ingresses, hl, h⟩ := bind_eq_ok.1 h
  exact mem_of_fetchAll hl (mem_of_keepViewed h hm)

theorem mem_of_dependenciesOf {store : Store} {object found : Object} {objects : List Object}
    (h : store.dependenciesOf object = .ok objects) (hm : found ∈ objects) :
    found ∈ store.objects := by
  obtain ⟨view, _, h⟩ := bind_eq_ok.1 h
  exact mem_of_fetchNamed h hm

theorem exists_of_usageRelations_service {store : Store} {object : Object}
    {relations : List Relation} (hk : object.isKind .service = true)
    (h : store.usageRelations object = .ok relations) :
    ∃ pods ingresses, store.selectedPods object = .ok pods ∧
      store.ingressesFor object = .ok ingresses ∧
      relations = pods.map .outgoing ++ ingresses.map .incoming := by
  rw [usageRelations, if_pos hk] at h
  obtain ⟨pods, hp, h⟩ := bind_eq_ok.1 h
  obtain ⟨ingresses, hi, h⟩ := bind_eq_ok.1 h
  cases h
  exact ⟨pods, ingresses, hp, hi, rfl⟩

theorem exists_of_usageRelations_ingress {store : Store} {object : Object}
    {relations : List Relation} (hs : ¬ object.isKind .service = true)
    (hk : object.isKind .ingress = true) (h : store.usageRelations object = .ok relations) :
    ∃ services, store.backendServices object = .ok services ∧
      relations = services.map .outgoing := by
  rw [usageRelations, if_neg hs, if_pos hk] at h
  obtain ⟨services, hb, h⟩ := bind_eq_ok.1 h
  cases h
  exact ⟨services, hb, rfl⟩

theorem exists_of_usageRelations_pod {store : Store} {object : Object}
    {relations : List Relation} (hs : ¬ object.isKind .service = true)
    (hi : ¬ object.isKind .ingress = true) (hk : object.isKind .pod = true)
    (h : store.usageRelations object = .ok relations) :
    ∃ services used, store.selectingServices object = .ok services ∧
      store.dependenciesOf object = .ok used ∧
      relations = services.map .incoming ++ used.map .outgoing := by
  rw [usageRelations, if_neg hs, if_neg hi, if_pos hk] at h
  obtain ⟨services, hb, h⟩ := bind_eq_ok.1 h
  obtain ⟨used, hu, h⟩ := bind_eq_ok.1 h
  cases h
  exact ⟨services, used, hb, hu, rfl⟩

/-- The relations of an object are put together from its owners, its children and those of use. -/
theorem exists_of_relations {store : Store} {object : Object} {relations : List Relation}
    (h : store.relations object = .ok relations) :
    ∃ owners children usage, store.ownersOf object = .ok owners ∧
      store.childrenOf object = .ok children ∧ store.usageRelations object = .ok usage ∧
      relations = owners.map .incoming ++ children.map .outgoing ++ usage := by
  obtain ⟨owners, ho, h⟩ := bind_eq_ok.1 h
  obtain ⟨children, hc, h⟩ := bind_eq_ok.1 h
  obtain ⟨usage, hu, h⟩ := bind_eq_ok.1 h
  cases h
  exact ⟨owners, children, usage, ho, hc, hu, rfl⟩

/-- How a related object was found: in the answer to which of the questions about the visited one. -/
inductive Finds (store : Store) (object found : Object) : Prop where
  | owner {objects : List Object} (h : store.ownersOf object = .ok objects) (hm : found ∈ objects)
  | child {objects : List Object} (h : store.childrenOf object = .ok objects) (hm : found ∈ objects)
  | selectedPod {objects : List Object} (h : store.selectedPods object = .ok objects)
      (hm : found ∈ objects)
  | ingress {objects : List Object} (h : store.ingressesFor object = .ok objects)
      (hm : found ∈ objects)
  | backend {objects : List Object} (h : store.backendServices object = .ok objects)
      (hm : found ∈ objects)
  | selectingService {objects : List Object} (h : store.selectingServices object = .ok objects)
      (hm : found ∈ objects)
  | dependency {objects : List Object} (h : store.dependenciesOf object = .ok objects)
      (hm : found ∈ objects)

theorem finds_of_usageRelations {store : Store} {object : Object} {relations : List Relation}
    (h : store.usageRelations object = .ok relations) {relation : Relation}
    (hm : relation ∈ relations) : store.Finds object relation.object := by
  by_cases hs : object.isKind .service = true
  · obtain ⟨pods, ingresses, hp, hi, rfl⟩ := exists_of_usageRelations_service hs h
    rcases List.mem_append.1 hm with hm | hm <;> obtain ⟨o, ho, rfl⟩ := List.mem_map.1 hm
    · exact .selectedPod hp ho
    · exact .ingress hi ho
  by_cases hi : object.isKind .ingress = true
  · obtain ⟨services, hb, rfl⟩ := exists_of_usageRelations_ingress hs hi h
    obtain ⟨o, ho, rfl⟩ := List.mem_map.1 hm
    exact .backend hb ho
  by_cases hp : object.isKind .pod = true
  · obtain ⟨services, used, hb, hu, rfl⟩ := exists_of_usageRelations_pod hs hi hp h
    rcases List.mem_append.1 hm with hm | hm <;> obtain ⟨o, ho, rfl⟩ := List.mem_map.1 hm
    · exact .selectingService hb ho
    · exact .dependency hu ho
  · rw [usageRelations, if_neg hs, if_neg hi, if_neg hp] at h
    cases h
    cases hm

/-- Every related object was found by one of the questions. -/
theorem finds_of_relations {store : Store} {object : Object} {relations : List Relation}
    (h : store.relations object = .ok relations) {relation : Relation} (hm : relation ∈ relations) :
    store.Finds object relation.object := by
  obtain ⟨owners, children, usage, ho, hc, hu, rfl⟩ := exists_of_relations h
  rcases List.mem_append.1 hm with hm | hm
  · rcases List.mem_append.1 hm with hm | hm <;> obtain ⟨o, h', rfl⟩ := List.mem_map.1 hm
    · exact .owner ho h'
    · exact .child hc h'
  · exact finds_of_usageRelations hu hm

theorem Finds.mem {store : Store} {object found : Object} (h : store.Finds object found) :
    found ∈ store.objects := by
  cases h with
  | owner h hm => exact mem_of_ownersOf h hm
  | child h hm => exact mem_of_childrenOf h hm
  | selectedPod h hm => exact mem_of_selectedPods h hm
  | ingress h hm => exact mem_of_ingressesFor h hm
  | backend h hm => exact mem_of_backendServices h hm
  | selectingService h hm => exact mem_of_selectingServices h hm
  | dependency h hm => exact mem_of_dependenciesOf h hm

/-- Every related object is one of the store. -/
theorem mem_of_relations {store : Store} {object : Object} {relations : List Relation}
    (h : store.relations object = .ok relations) {relation : Relation} (hm : relation ∈ relations) :
    relation.object ∈ store.objects :=
  (finds_of_relations h hm).mem

end ClusterGraph.Store
