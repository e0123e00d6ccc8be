import Mathlib.Data.List.Nodup
import ClusterGraph.Proofs.Status.Ingress

/-!
# Problems that are reported again

Of the problems of an ingress those are dropped that repeat the one before them. That is enough only if
equal problems are met one right after the other, and the order in which they are met is that of the
backends, whatever services these share:

* **`nodup_dropRepeats_iff`** — what is left has no text twice exactly if equal texts stood together.
* **`details_nodup_iff`** — so an ingress is told each of its problems once exactly if it meets equal ones
  one right after the other.
* **`not_forall_details_nodup`** — a service that is missed twice, and another one in between, is reported
  twice.
-/

namespace ClusterGraph

/-- An ingress with backends meets its problems in an order. -/
def Object.Meets (ingress : Object) (store : Store) (texts : List String) : Prop :=
  ∃ view, ingress.viewAs .ingress Object.asIngress = .ok view ∧ view.backends ≠ [] ∧
    Check.problems store ingress view = .ok texts

namespace Check

/-! ## Texts that stand together

Dropping a text that repeats the one before it leaves one text of every stretch of equal ones. A text is
left over twice if it has two stretches, which `Together` rules out. -/

/-- Equal texts stand together: there is no other one between them. -/
def Together (texts : List String) : Prop :=
  ∀ before between after text, texts = before ++ text :: (between ++ text :: after) →
    ∀ other ∈ between, other = text

theorem together_nil : Together [] := by
  simp [Together]

theorem together_cons (first : String) (texts : List String) : Together (first :: texts) ↔
    Together texts ∧ ∀ between after, texts = between ++ first :: after →
      ∀ other ∈ between, other = first := by
  constructor
  · intro h
    refine ⟨fun before between after text heq => ?_, fun between after heq => ?_⟩
    · exact h (first :: before) between after text (by rw [heq, List.cons_append])
    · exact h [] between after first (by rw [heq, List.nil_append])
  · rintro ⟨hrest, hfirst⟩ before between after text heq
    cases before with
    | nil =>
      obtain ⟨rfl, htail⟩ := List.cons.inj heq
      exact hfirst between after htail
    | cons _ before => exact hrest before between after text (List.cons.inj heq).2

variable {texts : List String}

/-- What is left has no text twice exactly if equal texts stood together. -/
theorem nodup_dropRepeats_iff : (dropRepeats texts).Nodup ↔ Together texts := by
  -- the cases of the recursion: no text, one, two equal ones in front, or two different ones
  fun_induction dropRepeats texts with
  | case1 => exact iff_of_true List.nodup_nil together_nil
  | case2 text =>
    exact iff_of_true (List.nodup_singleton text) ((together_cons text []).2 ⟨together_nil, by simp⟩)
  | case3 second rest ih =>
    -- the first text repeats the second one, and adds nothing to what stands together
    rw [ih, together_cons second (second :: rest), iff_self_and, together_cons]
    rintro ⟨-, hsecond⟩ between after heq
    cases between with
    | nil => simp
    | cons _ between =>
      obtain ⟨rfl, htail⟩ := List.cons.inj heq
      simpa using hsecond between after htail
  | case4 first second rest hne ih =>
    rw [List.nodup_cons, mem_dropRepeats, ih, together_cons first, and_comm]
    refine and_congr_right fun _ => ⟨fun hnew between after heq => ?_, fun hfirst hin => ?_⟩
    · exact absurd (heq ▸ by simp) hnew
    · -- the second text would stand between the first one and its repetition
      obtain ⟨between, after, heq⟩ := List.append_of_mem hin
      cases between with
      | nil => exact hne (List.cons.inj heq).1.symm
      | cons other between =>
        obtain ⟨rfl, -⟩ := List.cons.inj heq
        exact hne (hfirst _ after heq second List.mem_cons_self).symm

variable {store : Store} {ingress : Object} {status : ObjectStatus}

/-! ## The problems of an ingress

The problems become details after repetitions are dropped, in the order of the backends; those of
encryption come last. An ingress without problems has one detail, and one without backends too. -/

theorem nodup_verdict_iff : (verdict texts).details.Nodup ↔ Together texts := by
  by_cases hempty : texts = []
  · subst hempty
    exact iff_of_true (List.nodup_singleton _) together_nil
  · have hinj : Function.Injective Component.text := fun _ _ h => Component.text.inj h
    rw [verdict_of_ne_nil hempty, List.nodup_map_iff hinj, nodup_dropRepeats_iff]

/-- **An ingress is told each of its problems once exactly if it meets equal ones one right after the
other.** Otherwise what stands between two equal ones makes the later of them appear again. -/
theorem details_nodup_iff (h : Check.ingress store ingress = .ok status) :
    status.details.Nodup ↔ ∀ texts, ingress.Meets store texts → Together texts := by
  obtain ⟨view, hview, -⟩ := bind_eq_ok.1 h
  -- without backends there is a single detail, and no problem was met
  by_cases hb : view.backends = []
  · rw [ingress_of_no_backend hview hb] at h
    cases h
    refine iff_of_true (List.nodup_singleton _) ?_
    rintro texts ⟨other, hother, hsome, -⟩
    rw [hview] at hother
    cases hother
    exact absurd hb hsome
  · rw [ingress_of_backends hview hb] at h
    cases hp : problems store ingress view with
    | error error =>
      rw [hp] at h
      cases h
    | ok texts =>
      rw [hp] at h
      cases h
      rw [nodup_verdict_iff]
      refine ⟨?_, fun hall => hall texts ⟨view, hview, hb, hp⟩⟩
      -- the ingress meets its problems in one order only
      rintro htogether others ⟨other, hother, -, hothers⟩
      rw [hview] at hother
      cases hother
      rw [hp] at hothers
      cases hothers
      exact htogether

/-- Two backends in a row lead to one service that does not exist. -/
theorem details_nodup_iff_of_neighbours :
    let ingress := Sample.entrance (Sample.backendTo "api" "http")
      [Sample.backendTo "api" "http", Sample.backendTo "web" "http"] []
    let status : ObjectStatus := ⟨.error,
      [.text "Backend refers to service \"api\" which does not exist",
        .text "Backend refers to service \"web\" which does not exist"]⟩
    Check.ingress { objects := [] } ingress = .ok status ∧ status.details.Nodup ∧
      ∀ texts, ingress.Meets { objects := [] } texts → Together texts := by
  intro ingress status
  have hstatus : Check.ingress { objects := [] } ingress = .ok status :=
    toOption_eq_some.1 (by decide +kernel)
  have hnodup : status.details.Nodup := by decide
  exact ⟨hstatus, hnodup, (details_nodup_iff hstatus).1 hnodup⟩

/-- **An ingress may be told one of its problems twice.** Here another service is missed between the two
times that the same one is. -/
theorem not_forall_details_nodup :
    ¬ ∀ (store : Store) (ingress : Object) (status : ObjectStatus),
      Check.ingress store ingress = .ok status → status.details.Nodup := by
  intro hall
  let ingress := Sample.entrance (Sample.backendTo "api" "http")
    [Sample.backendTo "web" "http", Sample.backendTo "api" "http"] []
  let status : ObjectStatus := ⟨.error,
    [.text "Backend refers to service \"api\" which does not exist",
      .text "Backend refers to service \"web\" which does not exist",
      .text "Backend refers to service \"api\" which does not exist"]⟩
  have hstatus : Check.ingress { objects := [] } ingress = .ok status :=
    toOption_eq_some.1 (by decide +kernel)
  exact absurd (hall _ ingress status hstatus) (by decide)

end Check

end ClusterGraph
