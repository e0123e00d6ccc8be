import ClusterGraph.Fallible
import ClusterGraph.Proofs.Relation.Queries
import ClusterGraph.Proofs.Sample
import ClusterGraph.Proofs.Status.Dispatch

/-!
# The status of an ingress

What makes an ingress good is said about its document and about what the store gives to it: which backends
and secrets the document names (`HasBackend`, `NamesSecret`), and which object is meant by such a name
(`Means`). An ingress without a namespace means objects of any namespace.

* **`finds_or_misses`** — a store that answers has an object that is meant, or has none.
* **`backendProblem_eq_some_iff`**, **`backendProblem_eq_none_iff`** — what is said about a backend is what
  is wrong with it, and nothing is said exactly if its service offers what it asks for.
* **`mem_problems_iff`** — the problems that are met are those that the ingress has.
* **`exists_problems`** — they are all met unless a question fails or a service cannot be read.
* **`ingress_good_iff`** — so an ingress is good exactly if it is sound, and what is said of any other one
  with backends are its problems.
-/

namespace ClusterGraph

namespace ServiceView

/-- The service has a port of the name that is asked for, or, where only a number is, of this number. -/
structure Offers (service : ServiceView) (port : BackendPort) : Prop where
  named : ∀ name, port.name = some name → ∃ offered ∈ service.ports, offered.name = some name
  numbered : ∀ number, port.name = none → port.number = some number →
    ∃ offered ∈ service.ports, offered.number = number

theorem exposes_iff {service : ServiceView} {port : BackendPort} :
    Check.exposes service port = true ↔ service.Offers port := by
  obtain ⟨name, number⟩ := port
  unfold Check.exposes
  -- a name that is asked for counts before a number, and without either any service will do
  cases name with
  | some name =>
    simp only [List.any_eq_true, beq_iff_eq]
    refine ⟨fun h => ⟨?_, nofun⟩, fun h => h.named name rfl⟩
    intro _ hname
    cases hname
    exact h
  | none =>
    cases number with
    | some number =>
      simp only [List.any_eq_true, beq_iff_eq]
      refine ⟨fun h => ⟨nofun, ?_⟩, fun h => h.numbered number rfl rfl⟩
      intro _ _ hnumber
      cases hnumber
      exact h
    | none => exact ⟨fun _ => ⟨nofun, nofun⟩, fun _ => rfl⟩

end ServiceView

namespace Object

/-! ## What an ingress says

Backends and secrets as the document gives them, in terms of its fields. The view of an ingress, which the
rule works with, has the same ones in its lists, and the rest of this section says so. -/

/-- An ingress has a default backend, perhaps, and one for each path of its rules. A backend leads to a
service or to something else. -/
inductive HasBackend (ingress : Object) : Option ServiceBackend → Prop where
  | default {json : Json} (h : ingress.at? ["spec", "defaultBackend"] = some json) :
    HasBackend ingress (IngressView.backend json)
  | path {rule http path : Json} (hrule : rule ∈ ingress.itemsAt ["spec", "rules"])
    (hhttp : rule.present? "http" = some http) (hpath : path ∈ http.itemsAt "paths") :
    HasBackend ingress (IngressView.backend ((path.get? "backend").getD .null))

/-- A TLS entry names a secret. -/
def NamesSecret (ingress : Object) (name : String) : Prop :=
  ∃ entry ∈ ingress.itemsAt ["spec", "tls"], textField? entry "secretName" = some name

variable {ingress object found : Object} {view : IngressView}

theorem mem_backends_iff (h : ingress.asIngress = .ok view) {backend : Option ServiceBackend} :
    backend ∈ view.backends ↔ ingress.HasBackend backend := by
  obtain ⟨-, -, h⟩ := bind_eq_ok.1 h
  cases h
  rw [List.mem_append, List.mem_flatMap]
  constructor
  · rintro (hdefault | ⟨rule, hrule, hpath⟩)
    · rw [Option.mem_toList, Option.map_eq_some_iff] at hdefault
      obtain ⟨json, hjson, rfl⟩ := hdefault
      exact .default hjson
    · unfold IngressView.ruleBackends at hpath
      split at hpath
      · cases hpath
      · -- a rule without `http` has no paths, and adds no backend
        next http hhttp =>
        obtain ⟨path, hin, rfl⟩ := List.mem_map.1 hpath
        exact .path hrule hhttp hin
  · rintro (hjson | ⟨hrule, hhttp, hpath⟩)
    · rw [hjson]
      exact Or.inl (by simp)
    · refine Or.inr ⟨_, hrule, ?_⟩
      rw [IngressView.ruleBackends, hhttp]
      exact List.mem_map_of_mem hpath

theorem mem_services_iff (h : ingress.asIngress = .ok view) {backend : ServiceBackend} :
    backend ∈ view.services ↔ ingress.HasBackend (some backend) := by
  rw [← mem_backends_iff h, IngressView.services]
  simp

theorem mem_secrets_iff (h : ingress.asIngress = .ok view) {name : String} :
    name ∈ view.secrets ↔ ingress.NamesSecret name := by
  obtain ⟨-, -, h⟩ := bind_eq_ok.1 h
  cases h
  exact List.mem_filterMap

theorem backends_eq_nil_iff (h : ingress.asIngress = .ok view) :
    view.backends = [] ↔ ¬ ∃ backend, ingress.HasBackend backend := by
  simp only [List.eq_nil_iff_forall_not_mem, mem_backends_iff h, not_exists]

/-! ## What an ingress finds

What a name in the document stands for. An answer of the store tells an object that is meant or that there
is none; that it may do neither is left to the hypotheses of the main theorem. -/

variable {store : Store} {kind name : String}

/-- An ingress means an object by a kind of the core group and a name. If it has a namespace, the object is
in the same one. -/
structure Means (ingress : Object) (kind name : String) (object : Object) : Prop where
  groupKind : object.groupKind = .ofApiVersion "v1" kind
  nameAny : object.nameAny = name
  namespaceName : ∀ space ∈ ingress.namespaceName, object.namespaceName = some space

/-- The object that the store gives to the ingress: the first one that is meant. -/
structure Finds (ingress : Object) (store : Store) (kind name : String) (found : Object) : Prop where
  mem : found ∈ store.objects
  meant : ingress.Means kind name found
  answer : store.get (.one ingress.namespaceName "v1" kind name) = .ok (some found)

/-- The store answers that it has no object that is meant. -/
structure Misses (ingress : Object) (store : Store) (kind name : String) : Prop where
  absent : ∀ object ∈ store.objects, ¬ ingress.Means kind name object
  answer : store.get (.one ingress.namespaceName "v1" kind name) = .ok none

theorem describes_one_iff_means :
    (ObjectKey.one ingress.namespaceName "v1" kind name).describes object = true ↔
      ingress.Means kind name object := by
  rw [ObjectKey.describes_one_iff, ObjectKey.describes_every_iff]
  exact ⟨fun ⟨⟨hk, hs⟩, hn⟩ => ⟨hk, hn, hs⟩, fun h => ⟨⟨h.groupKind, h.namespaceName⟩, h.nameAny⟩⟩

theorem finds_iff : ingress.Finds store kind name found ↔
    store.get (.one ingress.namespaceName "v1" kind name) = .ok (some found) := by
  refine ⟨fun h => h.answer, fun h => ⟨Store.mem_of_get h, ?_, h⟩⟩
  have hfound : store.find? (.one ingress.namespaceName "v1" kind name) = some found :=
    Store.find?_of_get h
  exact describes_one_iff_means.1 (List.find?_some hfound)

theorem misses_iff : ingress.Misses store kind name ↔
    store.get (.one ingress.namespaceName "v1" kind name) = .ok none := by
  refine ⟨fun h => h.answer, fun h => ⟨fun object hm hmeans => ?_, h⟩⟩
  have hnone : store.find? (.one ingress.namespaceName "v1" kind name) = none :=
    Store.find?_of_get h
  exact List.find?_eq_none.1 hnone object hm (describes_one_iff_means.2 hmeans)

theorem finds_or_misses
    (h : ∃ found, store.get (.one ingress.namespaceName "v1" kind name) = .ok found) :
    (∃ found, ingress.Finds store kind name found) ∨ ingress.Misses store kind name := by
  obtain ⟨found, hget⟩ := h
  cases found with
  | some found => exact Or.inl ⟨found, finds_iff.2 hget⟩
  | none => exact Or.inr (misses_iff.2 hget)

theorem Misses.not_finds (h : ingress.Misses store kind name) :
    ¬ ∃ found, ingress.Finds store kind name found := by
  rintro ⟨found, hfound⟩
  exact h.absent found hfound.mem hfound.meant

/-! ## What can be wrong with an ingress

A fault goes with its wording, since the details of the status are these words. An ingress without any
backend has a wording of its own, which is no fault of this list. -/

/-- The service of a backend exists and offers the port that the backend asks for, if it asks for one. -/
def Serves (ingress : Object) (store : Store) (backend : ServiceBackend) : Prop :=
  ∃ service view, ingress.Finds store "Service" backend.name service ∧
    service.asService = .ok view ∧ ∀ port, backend.port = some port → view.Offers port

/-- What is wrong with a backend, in words. -/
inductive BackendFault (ingress : Object) (store : Store) (backend : ServiceBackend) : String → Prop where
  | missing (h : ingress.Misses store "Service" backend.name) :
    BackendFault ingress store backend
      ("Backend refers to service \"" ++ backend.name ++ "\" which does not exist")
  | port {service : Object} {view : ServiceView} {port : BackendPort}
    (hs : ingress.Finds store "Service" backend.name service) (hv : service.asService = .ok view)
    (hp : backend.port = some port) (h : ¬ view.Offers port) :
    BackendFault ingress store backend
      ("Backend for service \"" ++ backend.name ++ "\" specifies an invalid port")

/-- What is wrong with an ingress that has backends, in words. -/
inductive HasProblem (ingress : Object) (store : Store) : String → Prop where
  | backend {backend : ServiceBackend} {text : String} (hb : ingress.HasBackend (some backend))
    (h : ingress.BackendFault store backend text) : HasProblem ingress store text
  | secret {name : String} (hn : ingress.NamesSecret name) (h : ingress.Misses store "Secret" name) :
    HasProblem ingress store ("Secret \"" ++ name ++ "\" does not exist")

/-- There is a backend, every backend with a service is served, and every secret exists. -/
structure IsSound (ingress : Object) (store : Store) : Prop where
  backend : ∃ backend, ingress.HasBackend backend
  services : ∀ backend, ingress.HasBackend (some backend) → ingress.Serves store backend
  secrets : ∀ name, ingress.NamesSecret name → ∃ secret, ingress.Finds store "Secret" name secret

end Object

namespace Check

open Object

variable {store : Store} {ingress service : Object} {backend : ServiceBackend} {view : ServiceView}
  {name text : String}

/-! ## What is said about one backend and one secret

For a single backend or secret there are three outcomes: something is wrong with it, nothing is, or the
question fails. The first two are described exactly, and nothing needs to be said of the third one. -/

theorem backendProblem_of_misses (h : ingress.Misses store "Service" backend.name) :
    backendProblem store ingress backend =
      .ok (some ("Backend refers to service \"" ++ backend.name ++ "\" which does not exist")) := by
  rw [backendProblem, lookUp, h.answer]
  rfl

theorem backendProblem_of_finds (h : ingress.Finds store "Service" backend.name service)
    (hv : service.asService = .ok view) :
    backendProblem store ingress backend =
      if backend.port.all (exposes view) then .ok none
      else .ok (some ("Backend for service \"" ++ backend.name ++ "\" specifies an invalid port")) := by
  have hread : service.converted asService = .ok view := mapError_eq_ok.2 hv
  rw [backendProblem, lookUp, h.answer]
  show (service.converted asService >>= fun view => _) = _
  rw [hread]
  rfl

theorem all_exposes_iff :
    backend.port.all (exposes view) = true ↔ ∀ port, backend.port = some port → view.Offers port := by
  simp only [Option.all_eq_true, ServiceView.exposes_iff]

/-- Where something is said about a backend, its service is missing or can be read. -/
theorem finds_or_misses_of_backendProblem {problem : Option String}
    (h : backendProblem store ingress backend = .ok problem) :
    ingress.Misses store "Service" backend.name ∨
      ∃ service view, ingress.Finds store "Service" backend.name service ∧
        service.asService = .ok view := by
  obtain ⟨found, hfound, h⟩ := bind_eq_ok.1 h
  have hget := mapError_eq_ok.1 hfound
  cases found with
  | none => exact Or.inl (misses_iff.2 hget)
  | some service =>
    obtain ⟨view, hview, -⟩ := bind_eq_ok.1 h
    exact Or.inr ⟨service, view, finds_iff.2 hget, mapError_eq_ok.1 hview⟩

theorem backendProblem_eq_some_iff :
    backendProblem store ingress backend = .ok (some text) ↔
      ingress.BackendFault store backend text := by
  constructor
  · intro h
    -- the service is missing, or it was read and its ports were looked at
    rcases finds_or_misses_of_backendProblem h with hmisses | ⟨service, view, hfinds, hview⟩
    · rw [backendProblem_of_misses hmisses] at h
      cases h
      exact .missing hmisses
    · rw [backendProblem_of_finds hfinds hview] at h
      split at h
      · cases h
      · next hclosed =>
        cases h
        rw [all_exposes_iff] at hclosed
        simp only [not_forall] at hclosed
        obtain ⟨port, hport, hoffers⟩ := hclosed
        exact .port hfinds hview hport hoffers
  · rintro (hmisses | ⟨hfinds, hview, hport, hoffers⟩)
    · exact backendProblem_of_misses hmisses
    · rw [backendProblem_of_finds hfinds hview, if_neg fun hall =>
        hoffers (all_exposes_iff.1 hall _ hport)]

theorem backendProblem_eq_none_iff :
    backendProblem store ingress backend = .ok none ↔ ingress.Serves store backend := by
  constructor
  · intro h
    rcases finds_or_misses_of_backendProblem h with hmisses | ⟨service, view, hfinds, hview⟩
    · rw [backendProblem_of_misses hmisses] at h
      cases h
    · rw [backendProblem_of_finds hfinds hview] at h
      split at h
      · next hall => exact ⟨service, view, hfinds, hview, all_exposes_iff.1 hall⟩
      · cases h
  · rintro ⟨service, view, hfinds, hview, hoffers⟩
    rw [backendProblem_of_finds hfinds hview, if_pos (all_exposes_iff.2 hoffers)]

theorem secretProblem_of_misses (h : ingress.Misses store "Secret" name) :
    secretProblem store ingress name = .ok (some ("Secret \"" ++ name ++ "\" does not exist")) := by
  rw [secretProblem, lookUp, h.answer]
  rfl

theorem secretProblem_of_finds {secret : Object} (h : ingress.Finds store "Secret" name secret) :
    secretProblem store ingress name = .ok none := by
  rw [secretProblem, lookUp, h.answer]
  rfl

theorem finds_or_misses_of_secretProblem {problem : Option String}
    (h : secretProblem store ingress name = .ok problem) :
    (∃ secret, ingress.Finds store "Secret" name secret) ∨ ingress.Misses store "Secret" name := by
  obtain ⟨found, hfound, -⟩ := bind_eq_ok.1 h
  exact finds_or_misses ⟨found, mapError_eq_ok.1 hfound⟩

theorem secretProblem_eq_some_iff :
    secretProblem store ingress name = .ok (some text) ↔
      ingress.Misses store "Secret" name ∧ "Secret \"" ++ name ++ "\" does not exist" = text := by
  constructor
  · intro h
    rcases finds_or_misses_of_secretProblem h with ⟨secret, hfinds⟩ | hmisses
    · rw [secretProblem_of_finds hfinds] at h
      cases h
    · rw [secretProblem_of_misses hmisses] at h
      cases h
      exact ⟨hmisses, rfl⟩
  · rintro ⟨hmisses, rfl⟩
    exact secretProblem_of_misses hmisses

/-! ## What is said about the whole ingress

The problems are collected over all backends and secrets, so that one failed question is a failure of the
whole. Where none fails, the ingress is sound exactly if nothing was collected. -/

/-- The problems of an ingress in the order in which they are met: first those of its backends, then those
of its secrets. -/
def problems (store : Store) (ingress : Object) (view : IngressView) :
    Except StatusError (List String) := do
  let backends ← view.services.mapM (backendProblem store ingress)
  let secrets ← view.secrets.mapM (secretProblem store ingress)
  pure ((backends ++ secrets).filterMap id)

/-- What is said about an ingress with backends in view of its problems. -/
def verdict (problems : List String) : ObjectStatus :=
  if problems.isEmpty then .said .ok "Ingress is OK" else ⟨.error, (dropRepeats problems).map .text⟩

variable {ingressView : IngressView} {texts : List String}

theorem ingress_of_no_backend (hview : ingress.viewAs .ingress asIngress = .ok ingressView)
    (hb : ingressView.backends = []) :
    Check.ingress store ingress =
      .ok (.said .error "Ingress does not define any rules or a default backend") := by
  rw [Check.ingress, hview]
  show (if ingressView.backends.isEmpty then _ else _) = _
  rw [hb]
  rfl

theorem ingress_of_backends (hview : ingress.viewAs .ingress asIngress = .ok ingressView)
    (hb : ingressView.backends ≠ []) :
    Check.ingress store ingress = (problems store ingress ingressView).map verdict := by
  rw [Check.ingress, hview]
  show (if ingressView.backends.isEmpty then _ else _) = _
  rw [if_neg (by simpa using hb), problems]
  cases ingressView.services.mapM (backendProblem store ingress) with
  | error error => rfl
  | ok backends =>
    cases ingressView.secrets.mapM (secretProblem store ingress) with
    | error error => rfl
    | ok secrets =>
      show (if _ then _ else _) = Except.ok (verdict _)
      unfold verdict
      split <;> rfl

/-- The problems that are met are those that the ingress has. -/
theorem mem_problems_iff (hv : ingress.asIngress = .ok ingressView)
    (h : problems store ingress ingressView = .ok texts) :
    text ∈ texts ↔ ingress.HasProblem store text := by
  obtain ⟨backends, hbackends, h⟩ := bind_eq_ok.1 h
  obtain ⟨secrets, hsecrets, h⟩ := bind_eq_ok.1 h
  cases h
  have hsome : text ∈ (backends ++ secrets).filterMap id ↔
      some text ∈ backends ∨ some text ∈ secrets := by simp
  -- a problem is what some backend or some secret has given rise to
  rw [hsome, mem_mapM_iff hbackends, mem_mapM_iff hsecrets]
  constructor
  · rintro (⟨backend, hin, hproblem⟩ | ⟨name, hin, hproblem⟩)
    · exact .backend ((mem_services_iff hv).1 hin) (backendProblem_eq_some_iff.1 hproblem)
    · obtain ⟨hmisses, rfl⟩ := secretProblem_eq_some_iff.1 hproblem
      exact .secret ((mem_secrets_iff hv).1 hin) hmisses
  · rintro (⟨hb, hfault⟩ | ⟨hn, hmisses⟩)
    · exact Or.inl ⟨_, (mem_services_iff hv).2 hb, backendProblem_eq_some_iff.2 hfault⟩
    · exact Or.inr ⟨_, (mem_secrets_iff hv).2 hn, secretProblem_of_misses hmisses⟩

/-- If everything can be looked up and read, it is known which problems there are. -/
theorem exists_problems (hv : ingress.asIngress = .ok ingressView)
    (hstore : ∀ kind name, ∃ found,
      store.get (.one ingress.namespaceName "v1" kind name) = .ok found)
    (hservices : ∀ backend service, ingress.HasBackend (some backend) →
      ingress.Finds store "Service" backend.name service → ∃ view, service.asService = .ok view) :
    ∃ texts, problems store ingress ingressView = .ok texts := by
  have hbackend : ∀ backend ∈ ingressView.services, ∃ problem,
      backendProblem store ingress backend = .ok problem := by
    intro backend hin
    rcases finds_or_misses (hstore "Service" backend.name) with ⟨service, hfinds⟩ | hmisses
    · obtain ⟨view, hview⟩ := hservices backend service ((mem_services_iff hv).1 hin) hfinds
      rw [backendProblem_of_finds hfinds hview]
      split <;> exact ⟨_, rfl⟩
    · exact ⟨_, backendProblem_of_misses hmisses⟩
  have hsecret : ∀ name ∈ ingressView.secrets, ∃ problem,
      secretProblem store ingress name = .ok problem := by
    intro name _
    rcases finds_or_misses (hstore "Secret" name) with ⟨secret, hfinds⟩ | hmisses
    · exact ⟨_, secretProblem_of_finds hfinds⟩
    · exact ⟨_, secretProblem_of_misses hmisses⟩
  -- no question fails on its own, so that the two series of questions do not
  obtain ⟨backends, hbackends⟩ := exists_mapM_eq_ok hbackend
  obtain ⟨secrets, hsecrets⟩ := exists_mapM_eq_ok hsecret
  rw [problems, hbackends, hsecrets]
  exact ⟨_, rfl⟩

/-- An ingress with backends is sound if no problem is met. -/
theorem isSound_iff (hv : ingress.asIngress = .ok ingressView)
    (h : problems store ingress ingressView = .ok texts) (hb : ingressView.backends ≠ []) :
    ingress.IsSound store ↔ texts = [] := by
  constructor
  · intro hsound
    refine List.eq_nil_iff_forall_not_mem.2 fun text hin => ?_
    cases (mem_problems_iff hv h).1 hin with
    | backend hb hfault =>
      -- what is said of a backend is either that something is wrong or that nothing is
      have hserves := backendProblem_eq_none_iff.2 (hsound.services _ hb)
      rw [backendProblem_eq_some_iff.2 hfault] at hserves
      cases hserves
    | secret hn hmisses => exact hmisses.not_finds (hsound.secrets _ hn)
  · rintro rfl
    have hnone : ∀ text, ¬ ingress.HasProblem store text := fun text hproblem =>
      List.not_mem_nil ((mem_problems_iff hv h).2 hproblem)
    -- the questions have been answered, with a problem or with none, and there is no problem
    obtain ⟨backends, hbackends, h⟩ := bind_eq_ok.1 h
    obtain ⟨secrets, hsecrets, -⟩ := bind_eq_ok.1 h
    refine ⟨?_, fun backend hb => ?_, fun name hn => ?_⟩
    · by_contra hno
      exact hb ((backends_eq_nil_iff hv).2 hno)
    · obtain ⟨problem, hproblem⟩ := ok_of_mapM_eq_ok hbackends ((mem_services_iff hv).2 hb)
      cases problem with
      | none => exact backendProblem_eq_none_iff.1 hproblem
      | some text => exact absurd (.backend hb (backendProblem_eq_some_iff.1 hproblem)) (hnone text)
    · obtain ⟨problem, hproblem⟩ := ok_of_mapM_eq_ok hsecrets ((mem_secrets_iff hv).2 hn)
      rcases finds_or_misses_of_secretProblem hproblem with hfinds | hmisses
      · exact hfinds
      · exact absurd (.secret hn hmisses) (hnone _)

theorem mem_dropRepeats {texts : List String} : text ∈ dropRepeats texts ↔ text ∈ texts := by
  fun_induction dropRepeats texts with
  | case1 => rfl
  | case2 => rfl
  | case3 second rest ih => simp [ih]
  | case4 first second rest hne ih => simp [ih]

theorem verdict_of_ne_nil {texts : List String} (h : texts ≠ []) :
    verdict texts = ⟨.error, (dropRepeats texts).map .text⟩ := by
  rw [verdict, if_neg (by simpa using h)]

/-- **An ingress is good exactly if it is sound, and what is said of any other one with backends are its
problems, no more and no less.** This holds of every ingress that can be read, as long as the store answers
its questions and the services that it finds can be read. -/
theorem ingress_good_iff (hk : ingress.isKind .ingress = true)
    (hc : ingress.conforms .ingress = .ok ())
    (hstore : ∀ kind name, ∃ found,
      store.get (.one ingress.namespaceName "v1" kind name) = .ok found)
    (hservices : ∀ backend service, ingress.HasBackend (some backend) →
      ingress.Finds store "Service" backend.name service → ∃ view, service.asService = .ok view) :
    ∃ status, Check.ingress store ingress = .ok status ∧
      (status.status = .ok ↔ ingress.IsSound store) ∧
      (¬ ingress.IsSound store → status.status = .error ∧
        ((∃ backend, ingress.HasBackend backend) →
          ∀ detail, detail ∈ status.details ↔
            ∃ text, ingress.HasProblem store text ∧ .text text = detail)) := by
  obtain ⟨view, hv⟩ : ∃ view, ingress.asIngress = .ok view := by
    rw [asIngress, hc]
    exact ⟨_, rfl⟩
  have hview : ingress.viewAs .ingress asIngress = .ok view := by
    rw [Resolver.viewAs_of_isKind hk]
    exact mapError_eq_ok.2 hv
  by_cases hb : view.backends = []
  · have hnone := (backends_eq_nil_iff hv).1 hb
    refine ⟨_, ingress_of_no_backend hview hb, ?_, fun _ => ⟨rfl, fun hsome => absurd hsome hnone⟩⟩
    exact ⟨nofun, fun hsound => absurd hsound.backend hnone⟩
  · obtain ⟨texts, htexts⟩ := exists_problems hv hstore hservices
    refine ⟨verdict texts, ?_, ?_⟩
    · rw [ingress_of_backends hview hb, htexts]
      rfl
    · rw [isSound_iff hv htexts hb]
      -- the grade goes by whether any problem was met, and the details are the problems without
      -- repetitions
      by_cases hempty : texts = []
      · subst hempty
        exact ⟨iff_of_true rfl rfl, fun hsome => absurd rfl hsome⟩
      · rw [verdict_of_ne_nil hempty]
        refine ⟨iff_of_false nofun hempty, fun _ => ⟨rfl, fun _ detail => ?_⟩⟩
        simp only [List.mem_map, mem_dropRepeats, mem_problems_iff hv htexts]

/-- One of the backends leads to a service that does not exist, and another one to a port that the service
does not offer; and there is no secret. -/
theorem ingress_good_iff_of_entrance :
    let ingress := Sample.entrance (Sample.backendTo "web" "http")
      [Sample.backendTo "api" "http", Sample.backendTo "web" "grpc"] ["web-tls"]
    let store : Store := { objects := [Sample.listening] }
    ingress.isKind .ingress = true ∧ ingress.conforms .ingress = .ok () ∧
      (∀ kind name, ∃ found,
        store.get (.one ingress.namespaceName "v1" kind name) = .ok found) ∧
      (∀ backend service, ingress.HasBackend (some backend) →
        ingress.Finds store "Service" backend.name service → ∃ view, service.asService = .ok view) ∧
      ¬ ingress.IsSound store ∧ ∃ status, Check.ingress store ingress = .ok status ∧
        status.status = .error ∧ ∀ detail, detail ∈ status.details ↔
          ∃ text, ingress.HasProblem store text ∧ .text text = detail := by
  intro ingress store
  have hk : ingress.isKind .ingress = true := by decide
  have hc : ingress.conforms .ingress = .ok () := rfl
  have hstore : ∀ kind name, ∃ found,
      store.get (.one ingress.namespaceName "v1" kind name) = .ok found :=
    fun kind name => ⟨_, Store.get_eq_ok rfl rfl⟩
  have hfound : ∀ {name found}, ingress.Finds store "Service" name found →
      found = Sample.listening := fun h => List.mem_singleton.1 h.mem
  have hservices : ∀ backend service, ingress.HasBackend (some backend) →
      ingress.Finds store "Service" backend.name service →
      ∃ view, service.asService = .ok view := by
    intro backend service _ hfinds
    rw [hfound hfinds]
    exact ⟨_, rfl⟩
  have hview : ingress.asIngress = .ok
      ⟨[some ⟨"web", some ⟨some "http", none⟩⟩, some ⟨"api", some ⟨some "http", none⟩⟩,
        some ⟨"web", some ⟨some "grpc", none⟩⟩], ["web-tls"]⟩ := rfl
  have hapi : ingress.HasBackend (some ⟨"api", some ⟨some "http", none⟩⟩) :=
    (mem_backends_iff hview).1 (by simp)
  -- the service that is missed keeps the ingress from being sound
  have hunsound : ¬ ingress.IsSound store := by
    intro hsound
    obtain ⟨service, -, hfinds, -⟩ := hsound.services _ hapi
    have hname : service.nameAny = "api" := hfinds.meant.nameAny
    rw [hfound hfinds] at hname
    exact absurd hname (by decide)
  obtain ⟨status, hstatus, -, hproblems⟩ := ingress_good_iff hk hc hstore hservices
  obtain ⟨herror, hdetails⟩ := hproblems hunsound
  exact ⟨hk, hc, hstore, hservices, hunsound, status, hstatus, herror, hdetails ⟨_, hapi⟩⟩

end Check

end ClusterGraph
