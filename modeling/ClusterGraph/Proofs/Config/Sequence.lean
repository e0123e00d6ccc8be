import Mathlib.Data.List.Induction
import ClusterGraph.Proofs.Config.Change

/-!
# Changes one after another

However broken the settings file may be to begin with, and whatever the variables say, a sequence of changes
only ever turns it into a file that is right.

* **`sound_of_exit`** — a change that succeeds leaves a settings file that is right (`Sound`), whatever was
  there before.
* **`Sound.set`** — the step: a file that is right stays so, since a change that does not succeed leaves the
  files as they are.
* **`Sound.filesAfter`** — the run, by induction on the changes.
* **`rejected_or_sound`** — what holds at each place of a sequence, and at its end.

What is written has passed the checks, in which no plugin may come twice. So reading it back and laying it
over the defaults gives the same settings, and these pass the checks again.
-/

namespace ClusterGraph.ConfigRequest

variable {environment : Environment} {files : FileTree} {edits : List (String × String)}

/-- The files after changes that were asked for one after another, be it in vain. -/
def filesAfter (environment : Environment) (files : FileTree) (edits : List (String × String)) :
    FileTree :=
  edits.foldl (fun files edit => ((set edit.1 edit.2).run ⟨files, environment⟩).files) files

/-- The settings that were not turned down on the way. -/
def accepted (environment : Environment) : FileTree → List (String × String) → List Config
  | _, [] => []
  | files, (key, value) :: rest =>
    (edited ⟨files, environment⟩ key value).toOption.toList ++
      accepted environment ((set key value).run ⟨files, environment⟩).files rest

/-- A settings file that can be read, whose settings make sense, and which is found valid where no variable
says anything about settings. -/
structure Sound (environment : Environment) (files : FileTree) : Prop where
  read : ∃ config, Config.ofFile files environment.configPath = .ok config ∧ config.Valid
  valid : validate.run ⟨files, environment.withoutOverrides⟩ =
    { output := "Configuration is valid\n", files }

/-! ## One change

What a change has written is valid, and valid settings are found valid again. A change that does not
succeed writes nothing, so that a file that was right is right still. -/

theorem sound_of_ofFile {config : Config}
    (h : Config.ofFile files environment.configPath = .ok config) (hv : config.Valid) :
    Sound environment files where
  read := ⟨config, h, hv⟩
  valid := by rw [run, Config.validateFiles_withoutOverrides h hv]

theorem sound_of_exit {key value : String}
    (hexit : ((set key value).run ⟨files, environment⟩).exit = 0)
    (hback : ∀ config, edited ⟨files, environment⟩ key value = .ok config → config.ReadsBack) :
    Sound environment ((set key value).run ⟨files, environment⟩).files := by
  obtain ⟨config, hedited, hsaved⟩ := ofFile_of_exit hexit hback
  obtain ⟨_, _, _, hvalid⟩ := edited_eq_ok.1 hedited
  exact sound_of_ofFile hsaved hvalid

/-- A change that does not succeed leaves the files alone. -/
theorem files_of_exit_ne {workspace : Workspace} {key value : String}
    (h : ((set key value).run workspace).exit ≠ 0) :
    ((set key value).run workspace).files = workspace.files := by
  rw [run] at h ⊢
  split
  · next hc =>
    rw [hc] at h
    exact absurd rfl h
  · rfl

/-- **The step.** A settings file that is right stays right. -/
theorem Sound.set {key value : String} (h : Sound environment files)
    (hback : ∀ config, edited ⟨files, environment⟩ key value = .ok config → config.ReadsBack) :
    Sound environment ((ConfigRequest.set key value).run ⟨files, environment⟩).files := by
  by_cases hexit : ((ConfigRequest.set key value).run ⟨files, environment⟩).exit = 0
  · exact sound_of_exit hexit hback
  · rw [files_of_exit_ne hexit]
    exact h

/-! ## All changes

A change is made to the files that the changes before it have left. So a sequence is cut at any place into
what was done by then and the rest, and `accepted` and `filesAfter` are cut in the same way. -/

theorem mem_accepted_cons {edit : String × String} {config : Config} :
    config ∈ accepted environment files (edit :: edits) ↔
      edited ⟨files, environment⟩ edit.1 edit.2 = .ok config ∨
      config ∈ accepted environment (filesAfter environment files [edit]) edits := by
  rw [accepted, List.mem_append, Option.mem_toList, toOption_eq_some]
  rfl

theorem mem_accepted_append {done : List (String × String)} {config : Config} :
    config ∈ accepted environment files (done ++ edits) ↔
      config ∈ accepted environment files done ∨
      config ∈ accepted environment (filesAfter environment files done) edits := by
  induction done generalizing files with
  | nil => simp [accepted, filesAfter]
  | cons edit rest ih =>
    rw [List.cons_append, mem_accepted_cons, mem_accepted_cons, ih, or_assoc]
    rfl

/-- **The run.** It stays right through any sequence of changes. -/
theorem Sound.filesAfter (h : Sound environment files)
    (hback : ∀ config ∈ accepted environment files edits, config.ReadsBack) :
    Sound environment (filesAfter environment files edits) := by
  -- the first change leaves a file that is right, from which the others start
  induction edits generalizing files with
  | nil => exact h
  | cons edit rest ih =>
    have hnext : Sound environment ((ConfigRequest.set edit.1 edit.2).run ⟨files, environment⟩).files :=
      h.set fun config hc => hback config (mem_accepted_cons.2 (.inl hc))
    exact ih hnext fun config hc => hback config (mem_accepted_cons.2 (.inr hc))

theorem filesAfter_append (done edits : List (String × String)) :
    filesAfter environment files (done ++ edits) =
      filesAfter environment (filesAfter environment files done) edits :=
  List.foldl_append

/-- Changes that are all turned down leave the files as they were in the beginning. -/
theorem filesAfter_of_rejected
    (h : ∀ done key value rest, edits = done ++ (key, value) :: rest →
      ∃ report, edited ⟨filesAfter environment files done, environment⟩ key value = .error report) :
    filesAfter environment files edits = files := by
  -- by the last change: up to there the files are unchanged, so that it was turned down for them
  induction edits using List.reverseRecOn with
  | nil => rfl
  | append_singleton done edit ih =>
    have hdone : filesAfter environment files done = files := ih fun before key value rest heq =>
      h before key value (rest ++ [edit]) (by rw [heq]; simp)
    obtain ⟨report, hreport⟩ := h done edit.1 edit.2 [] rfl
    rw [hdone] at hreport
    rw [filesAfter_append, hdone]
    show ((set edit.1 edit.2).run ⟨files, environment⟩).files = files
    rw [run_set_of_rejected hreport]
    rfl

/-- At each place of a sequence of changes, one that is turned down (because the text is none for the setting,
or because the settings would make no sense) leaves the files as they are; one that succeeds leaves a
settings file that is right, and it is so at the end of the sequence. If all changes are turned down, the
files are as they were in the beginning. -/
theorem rejected_or_sound (environment : Environment) (files : FileTree)
    (edits : List (String × String))
    (hback : ∀ config ∈ accepted environment files edits, config.ReadsBack) :
    (∀ done key value rest, edits = done ++ (key, value) :: rest →
      let before : Workspace := ⟨filesAfter environment files done, environment⟩
      let outcome := (set key value).run before
      (∀ report, edited before key value = .error report →
        outcome = .failure before.files report) ∧
      (outcome.exit = 0 → Sound environment outcome.files ∧
        Sound environment (filesAfter environment files edits))) ∧
    ((∀ done key value rest, edits = done ++ (key, value) :: rest →
        ∃ report, edited ⟨filesAfter environment files done, environment⟩ key value =
          .error report) →
      filesAfter environment files edits = files) := by
  refine ⟨?_, filesAfter_of_rejected⟩
  rintro done key value rest rfl before outcome
  -- what is accepted from this place on is accepted in the whole sequence
  have hhere : ∀ config ∈ accepted environment before.files ((key, value) :: rest),
      config.ReadsBack := fun config hc => hback config (mem_accepted_append.2 (.inr hc))
  refine ⟨fun report => run_set_of_rejected, fun hexit => ?_⟩
  have hsound : Sound environment outcome.files :=
    sound_of_exit hexit fun config hc => hhere config (mem_accepted_cons.2 (.inl hc))
  refine ⟨hsound, ?_⟩
  rw [filesAfter_append]
  exact hsound.filesAfter fun config hc => hhere config (mem_accepted_cons.2 (.inr hc))

/-! ## A file that cannot be read

Two changes are turned down and leave the file as broken as it was; the third one repairs it. -/

/-- A settings file that cannot be read. -/
def garbled : FileTree :=
  filesWith "groupPods: ["

/-- A text that is none for its setting, settings that would make no sense, and a change that succeeds. -/
def attempts : List (String × String) :=
  [("cache.capacity", "0"), ("links.prefix", "x"), ("cache.capacity", "8")]

set_option maxRecDepth 4000 in
theorem accepted_attempts :
    accepted disputed.environment garbled attempts = [{ cacheCapacity := 8 }] := by
  decide +kernel

theorem rejected_or_sound_of_attempts :
    (∀ config ∈ accepted disputed.environment garbled attempts, config.ReadsBack) ∧
    (∃ report, (set "cache.capacity" "0").run ⟨garbled, disputed.environment⟩ =
      .failure garbled report) ∧
    Sound disputed.environment (filesAfter disputed.environment garbled attempts) := by
  have hback : ∀ config ∈ accepted disputed.environment garbled attempts, config.ReadsBack := by
    rw [accepted_attempts]
    decide +kernel
  obtain ⟨hplaces, -⟩ := rejected_or_sound disputed.environment garbled attempts hback
  refine ⟨hback, ?_, ?_⟩
  · obtain ⟨report, hreport⟩ := toOption_eq_none.1
      (show (edited ⟨garbled, disputed.environment⟩ "cache.capacity" "0").toOption = none by
        decide +kernel)
    exact ⟨report, (hplaces [] "cache.capacity" "0" _ rfl).1 report hreport⟩
  · have hexit : ((set "cache.capacity" "8").run
        ⟨filesAfter disputed.environment garbled (attempts.take 2), disputed.environment⟩).exit = 0 := by
      decide +kernel
    exact ((hplaces (attempts.take 2) "cache.capacity" "8" [] rfl).2 hexit).1

end ClusterGraph.ConfigRequest
