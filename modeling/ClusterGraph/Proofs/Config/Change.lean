import ClusterGraph.CommandLine.Run
import ClusterGraph.Proofs.Config.Layers

/-!
# A change of one setting

What is changed are the settings in force, and all of them are written.

* **`run_set_of_rejected`**, **`run_set_of_exit`** — a change that is turned down leaves the files alone; one
  that is reported as saved has written settings that make sense, and they are read back (`ofFile_of_exit`).
* **`set_keeps_others_iff`** — every other setting in the file is then what the variables say about it, or else
  what it was. So a change is a change of one setting only if the variables say nothing that the file does
  not say anyway.
* **`not_forall_set_keeps_others`** — a variable that says something else ends up in the file.
-/

namespace ClusterGraph

/-- Settings that are read from their own text. -/
def Config.ReadsBack (config : Config) : Prop :=
  Config.ofText? config.text = some config

instance : DecidablePred Config.ReadsBack := fun config =>
  inferInstanceAs (Decidable (Config.ofText? config.text = some config))

/-- What was saved is read. -/
theorem Config.ofFile_of_save {config : Config} {files saved : FileTree} {path : String}
    (h : config.save files path = .ok saved) (hback : config.ReadsBack) :
    Config.ofFile saved path = .ok config := by
  have hwrite : ∃ tree : FileTree, tree.write path config.text = .ok saved := by
    rw [save] at h
    -- with the directory there already or made first, the text is written under the path
    split at h <;>
    · obtain ⟨tree, _, h⟩ := bind_eq_ok.1 h
      exact ⟨tree, mapError_eq_ok.1 h⟩
  obtain ⟨tree, hwrite⟩ := hwrite
  have hread : saved.read path = .ok config.text := FileTree.read_of_write hwrite
  have htext : ofText? config.text = some config := hback
  simp only [ofFile, hread, mapError_ok, bind, Except.bind, htext]

namespace ConfigRequest

variable {workspace : Workspace} {key value : String} {config : Config} {report : Report}

/-! ## What a change does

A change starts from the settings in force, replaces one of them and checks the result. So it is turned
down before anything is written, or it writes settings that make sense; `changed_eq` cuts it into these
two parts, and `edited` is the first one. -/

/-- The settings to be changed: those in force, or else the defaults. -/
def current (workspace : Workspace) : Config :=
  (Config.load workspace).toOption.getD {}

/-- The settings that a change would write, or why it is turned down: the text is none for this setting, or
the settings make no sense. -/
def edited (workspace : Workspace) (key value : String) : Except Report Config := do
  let config ← ((current workspace).set key value).mapError
    (·.report.inContext ("Failed to set " ++ key ++ " = " ++ value))
  config.validate.mapError (·.report.inContext ("Invalid value for " ++ key))
  return config

theorem changed_eq (workspace : Workspace) (key value : String) :
    changed workspace key value = edited workspace key value >>= fun config =>
      (config.save workspace.files workspace.environment.configPath).mapError
        (·.report.inContext "Failed to save configuration") := by
  rw [changed, edited]
  simp only [bind_assoc, pure_bind]
  rfl

/-- A change that is not turned down is one of a setting, after which the settings make sense. -/
theorem edited_eq_ok :
    edited workspace key value = .ok config ↔
      ∃ setting, Setting.ofKey key = .ok setting ∧
        setting.change (current workspace) value = .ok config ∧ config.Valid := by
  simp only [edited, Config.set, bind_eq_ok, mapError_eq_ok, Config.validate_eq_ok_iff, exists_const,
    pure, Except.pure, Except.ok.injEq]
  constructor
  · rintro ⟨_, ⟨setting, hkey, hchange⟩, hvalid, rfl⟩
    exact ⟨setting, hkey, hchange, hvalid⟩
  · rintro ⟨setting, hkey, hchange, hvalid⟩
    exact ⟨config, ⟨setting, hkey, hchange⟩, hvalid, rfl⟩

theorem run_set_of_rejected (h : edited workspace key value = .error report) :
    (set key value).run workspace = .failure workspace.files report := by
  have hchanged : changed workspace key value = .error report := by
    rw [changed_eq, h]
    rfl
  rw [run, hchanged]

theorem run_set_of_exit (h : ((set key value).run workspace).exit = 0) :
    ∃ config files, edited workspace key value = .ok config ∧
      config.save workspace.files workspace.environment.configPath = .ok files ∧
      (set key value).run workspace = { output := "Configuration saved\n", files } := by
  rw [run] at h ⊢
  -- a change that fails has another exit
  cases hc : changed workspace key value with
  | error report =>
    rw [hc] at h
    cases h
  | ok files =>
    rw [changed_eq] at hc
    obtain ⟨config, hconfig, hsave⟩ := bind_eq_ok.1 hc
    exact ⟨config, files, hconfig, mapError_eq_ok.1 hsave, rfl⟩

/-- The settings that a change is reported to have saved are in the file afterwards. -/
theorem ofFile_of_exit (h : ((set key value).run workspace).exit = 0)
    (hback : ∀ config, edited workspace key value = .ok config → config.ReadsBack) :
    ∃ config, edited workspace key value = .ok config ∧
      Config.ofFile ((set key value).run workspace).files workspace.environment.configPath =
        .ok config := by
  obtain ⟨config, files, hconfig, hsave, hrun⟩ := run_set_of_exit h
  refine ⟨config, hconfig, ?_⟩
  rw [hrun]
  exact Config.ofFile_of_save hsave (hback config hconfig)

/-- After a change that was saved to a valid settings file, the file holds what was in force before, with
the one setting changed. All other settings in it are as they were if and only if no variable says anything
else about them. -/
theorem set_keeps_others_iff (workspace : Workspace) (key value : String) (before : Config)
    (hbefore : Config.ofFile workspace.files workspace.environment.configPath = .ok before)
    (hvalid : before.validate = .ok ()) (hexit : ((set key value).run workspace).exit = 0)
    (hback : ∀ config, edited workspace key value = .ok config → config.ReadsBack) :
    ∃ setting after, Setting.ofKey key = .ok setting ∧
      Config.ofFile ((set key value).run workspace).files workspace.environment.configPath =
        .ok after ∧
      setting.change (before.withEnvironment workspace.environment) value = .ok after ∧
      ((∀ other, other ≠ setting → other.valueIn after = other.valueIn before) ↔
        ∀ other, other ≠ setting → ∀ said, workspace.environment.valueOf? other = some said →
          said = other.valueIn before) := by
  obtain ⟨after, hedited, hafter⟩ := ofFile_of_exit hexit hback
  obtain ⟨setting, hkey, hchange, -⟩ := edited_eq_ok.1 hedited
  -- the file is valid, so that the settings in force are its own with what the variables say
  have hcurrent : current workspace = before.withEnvironment workspace.environment := by
    rw [current, Config.load_eq_ok hbefore (Config.validate_eq_ok_iff.1 hvalid)]
    rfl
  rw [hcurrent] at hchange
  have hother : ∀ other, other ≠ setting → other.valueIn after =
      (workspace.environment.valueOf? other).getD (other.valueIn before) := fun other hne => by
    rw [Setting.valueIn_change_of_ne hchange hne, Config.valueIn_withEnvironment]
  refine ⟨setting, after, hkey, hafter, hchange, forall₂_congr fun other hne => ?_⟩
  rw [hother other hne]
  cases workspace.environment.valueOf? other with
  | none => simp
  | some said => simp

/-! ## A file and a variable that disagree

The settings in force include what the variables say, and all of them are written. With a file by which
pods are grouped and a variable by which they are not, a change of any other setting writes the variable
down. -/

/-- Files with a settings file of the given text. -/
def filesWith (text : String) : FileTree where
  entries := Dict.ofEntries [("/etc", .directory), ("/etc/config.yaml", .file text)]

/-- A settings file by which pods are grouped, and a variable by which they are not. -/
def disputed : Workspace where
  files := filesWith "groupPods: true\n"
  environment := Dict.ofEntries [("RESVIEW_CONFIG_DIR", "/etc"), ("RESVIEW_GROUP_PODS", "false")]

theorem ofFile_disputed :
    Config.ofFile disputed.files disputed.environment.configPath = .ok {} :=
  toOption_eq_some.1 (by decide +kernel)

theorem edited_disputed :
    edited disputed "cache.capacity" "8" = .ok { groupPods := false, cacheCapacity := 8 } :=
  toOption_eq_some.1 (by decide +kernel)

theorem readsBack_disputed {config : Config}
    (h : edited disputed "cache.capacity" "8" = .ok config) : config.ReadsBack := by
  rw [edited_disputed] at h
  cases h
  decide +kernel

/-- The capacity of the cache is to be changed, and the variable is about something else. -/
theorem set_keeps_others_iff_of_disputed :
    Config.ofFile disputed.files disputed.environment.configPath = .ok {} ∧
    ({} : Config).validate = .ok () ∧ ((set "cache.capacity" "8").run disputed).exit = 0 ∧
    ∃ setting after, Setting.ofKey "cache.capacity" = .ok setting ∧
      Config.ofFile ((set "cache.capacity" "8").run disputed).files
        disputed.environment.configPath = .ok after ∧
      setting.change (({} : Config).withEnvironment disputed.environment) "8" = .ok after ∧
      ((∀ other, other ≠ setting → other.valueIn after = other.valueIn ({} : Config)) ↔
        ∀ other, other ≠ setting → ∀ said, disputed.environment.valueOf? other = some said →
          said = other.valueIn ({} : Config)) := by
  have hvalid : ({} : Config).validate = .ok () := toOption_eq_some.1 (by decide +kernel)
  have hexit : ((set "cache.capacity" "8").run disputed).exit = 0 := by decide +kernel
  exact ⟨ofFile_disputed, hvalid, hexit, set_keeps_others_iff disputed "cache.capacity" "8" {}
    ofFile_disputed hvalid hexit fun _ => readsBack_disputed⟩

/-- **What a variable says ends up in the file.** A change of the capacity of the cache turns off the
grouping of pods for good. -/
theorem not_forall_set_keeps_others :
    ¬ ∀ (workspace : Workspace) (key value : String) (before : Config),
      Config.ofFile workspace.files workspace.environment.configPath = .ok before →
      before.validate = .ok () → ((set key value).run workspace).exit = 0 →
      (∀ config, edited workspace key value = .ok config → config.ReadsBack) →
      ∃ setting after, Setting.ofKey key = .ok setting ∧
        Config.ofFile ((set key value).run workspace).files workspace.environment.configPath =
          .ok after ∧
        ∀ other, other ≠ setting → other.valueIn after = other.valueIn before := by
  intro h
  have hvalid : ({} : Config).validate = .ok () := toOption_eq_some.1 (by decide +kernel)
  have hexit : ((set "cache.capacity" "8").run disputed).exit = 0 := by decide +kernel
  obtain ⟨setting, after, hkey, hafter, hkeep⟩ :=
    h disputed "cache.capacity" "8" {} ofFile_disputed hvalid hexit fun _ => readsBack_disputed
  -- the claim would name the setting and the file after the change; both can be computed
  have hsetting : setting = .cacheCapacity :=
    Except.ok.inj (hkey.symm.trans (toOption_eq_some.1 (by decide +kernel)))
  have hafter : after = { groupPods := false, cacheCapacity := 8 } := by
    obtain ⟨config, hedited, hsaved⟩ := ofFile_of_exit hexit fun _ => readsBack_disputed
    rw [edited_disputed] at hedited
    exact (Except.ok.inj (hafter.symm.trans hsaved)).trans (Except.ok.inj hedited).symm
  have hgroup : Setting.groupPods.valueIn after = Setting.groupPods.valueIn {} :=
    hkeep .groupPods (by rw [hsetting]; decide)
  rw [hafter] at hgroup
  cases hgroup

end ConfigRequest

end ClusterGraph
