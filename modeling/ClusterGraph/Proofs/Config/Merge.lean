import Mathlib.Data.List.Induction
import Mathlib.Data.List.Nodup
import ClusterGraph.Config.Basic

/-!
# Settings laid over others

Plugins are added one by one, and each one drives out an earlier one of its name, be it one that was there
before or one that was added itself. What is left in the end can be said at once:

* **`foldl_addPlugin_eq`** — of the plugins that were there those whose names are not taken, and of the
  added ones the last of each name, in the order of these last ones.
* **`latest_foldl_addPlugin`** — adding plugins to others and taking the last of each name is the same as
  taking the last of each name from all of them in a row.
* **`merge_laws`** — so it does not matter how several settings are put in brackets, settings that are laid
  over others twice count once, and no name comes up twice if none did before.
-/

namespace ClusterGraph.Config

/-- The plugins whose names are not among some others. -/
def without (names : List String) (plugins : List PluginConfig) : List PluginConfig :=
  plugins.filter (·.name ∉ names)

/-- The last plugin of each name, in the order of these last ones. -/
def latest : List PluginConfig → List PluginConfig
  | [] => []
  | plugin :: rest =>
    if plugin.name ∈ rest.map (·.name) then latest rest else plugin :: latest rest

variable {names : List String} {base plugins others : List PluginConfig} {plugin : PluginConfig}
  {name : String}

/-! ## Plugins without some names

`without` is a filter by names. What matters about the names is which of them are taken; the lemmas say
so, and how the filter goes through lists and through itself. -/

theorem without_cons_of_mem (h : plugin.name ∈ names) :
    without names (plugin :: plugins) = without names plugins :=
  List.filter_cons_of_neg (by simpa using h)

theorem without_cons_of_notMem (h : plugin.name ∉ names) :
    without names (plugin :: plugins) = plugin :: without names plugins :=
  List.filter_cons_of_pos (by simpa using h)

theorem without_append :
    without names (plugins ++ others) = without names plugins ++ without names others :=
  List.filter_append ..

theorem without_without {more : List String} :
    without names (without more plugins) = without (more ++ names) plugins := by
  rw [without, without, without, List.filter_filter]
  exact List.filter_congr fun plugin _ => by simp [and_comm]

/-- Only which names are taken matters, not their order nor how often they come up. -/
theorem without_congr {more : List String} (h : ∀ name, name ∈ names ↔ name ∈ more) :
    without names plugins = without more plugins :=
  List.filter_congr fun plugin _ => by simp [h]

theorem without_eq_nil (h : ∀ plugin ∈ plugins, plugin.name ∈ names) : without names plugins = [] :=
  List.filter_eq_nil_iff.2 fun plugin hm => by simpa using h plugin hm

theorem mem_names_without :
    name ∈ (without names plugins).map (·.name) ↔ name ∈ plugins.map (·.name) ∧ name ∉ names := by
  simp only [without, List.mem_map, List.mem_filter, decide_eq_true_eq]
  constructor
  · rintro ⟨plugin, ⟨hm, hn⟩, rfl⟩
    exact ⟨⟨plugin, hm, rfl⟩, hn⟩
  · rintro ⟨⟨plugin, hm, rfl⟩, hn⟩
    exact ⟨plugin, ⟨hm, hn⟩, rfl⟩

/-! ## The last plugin of each name

`latest` drops a plugin if its name comes up again. Its names are those of the list, each once, and over
an append it is the last ones of the second list behind what these leave of the first one. With `without`
it commutes, since that drops a name altogether or not at all. -/

theorem latest_cons_of_mem (h : plugin.name ∈ plugins.map (·.name)) :
    latest (plugin :: plugins) = latest plugins :=
  if_pos h

theorem latest_cons_of_notMem (h : plugin.name ∉ plugins.map (·.name)) :
    latest (plugin :: plugins) = plugin :: latest plugins :=
  if_neg h

theorem mem_names_latest : name ∈ (latest plugins).map (·.name) ↔ name ∈ plugins.map (·.name) := by
  induction plugins with
  | nil => rfl
  | cons plugin rest ih =>
    by_cases hlater : plugin.name ∈ rest.map (·.name)
    · rw [latest_cons_of_mem hlater, ih, List.map_cons, List.mem_cons, or_iff_right_of_imp]
      rintro rfl
      exact hlater
    · rw [latest_cons_of_notMem hlater, List.map_cons, List.map_cons, List.mem_cons, List.mem_cons, ih]

theorem nodup_names_latest (plugins : List PluginConfig) :
    ((latest plugins).map (·.name)).Nodup := by
  induction plugins with
  | nil => exact List.nodup_nil
  | cons plugin rest ih =>
    by_cases hlater : plugin.name ∈ rest.map (·.name)
    · rwa [latest_cons_of_mem hlater]
    · rw [latest_cons_of_notMem hlater]
      exact List.nodup_cons.2 ⟨fun hm => hlater (mem_names_latest.1 hm), ih⟩

/-- Where no name comes up twice, each plugin is the last of its name. -/
theorem latest_eq_self (h : (plugins.map (·.name)).Nodup) : latest plugins = plugins := by
  induction plugins with
  | nil => rfl
  | cons plugin rest ih =>
    obtain ⟨hnew, hrest⟩ := List.nodup_cons.1 h
    rw [latest_cons_of_notMem hnew, ih hrest]

/-- The last ones of a list stay if none of their names comes up behind it. -/
theorem latest_append : latest (plugins ++ others) =
    without (others.map (·.name)) (latest plugins) ++ latest others := by
  induction plugins with
  | nil => rfl
  | cons plugin rest ih =>
    have hnames : plugin.name ∈ (rest ++ others).map (·.name) ↔
        plugin.name ∈ rest.map (·.name) ∨ plugin.name ∈ others.map (·.name) := by
      rw [List.map_append, List.mem_append]
    rw [List.cons_append]
    -- a later plugin of the name may stand in either list
    by_cases hrest : plugin.name ∈ rest.map (·.name)
    · rw [latest_cons_of_mem (hnames.2 (Or.inl hrest)), latest_cons_of_mem hrest, ih]
    · rw [latest_cons_of_notMem hrest]
      by_cases hothers : plugin.name ∈ others.map (·.name)
      · rw [latest_cons_of_mem (hnames.2 (Or.inr hothers)), without_cons_of_mem hothers, ih]
      · rw [latest_cons_of_notMem (by tauto), without_cons_of_notMem hothers, ih, List.cons_append]

theorem latest_without : latest (without names plugins) = without names (latest plugins) := by
  induction plugins with
  | nil => rfl
  | cons plugin rest ih =>
    by_cases hnames : plugin.name ∈ names
    · rw [without_cons_of_mem hnames, ih]
      by_cases hlater : plugin.name ∈ rest.map (·.name)
      · rw [latest_cons_of_mem hlater]
      · rw [latest_cons_of_notMem hlater, without_cons_of_mem hnames]
    · -- its name is kept, and so are the later plugins of this name
      have hkept : plugin.name ∈ (without names rest).map (·.name) ↔ plugin.name ∈ rest.map (·.name) := by
        rw [mem_names_without, and_iff_left hnames]
      rw [without_cons_of_notMem hnames]
      by_cases hlater : plugin.name ∈ rest.map (·.name)
      · rw [latest_cons_of_mem (hkept.2 hlater), latest_cons_of_mem hlater, ih]
      · rw [latest_cons_of_notMem (mt hkept.1 hlater), latest_cons_of_notMem hlater,
          without_cons_of_notMem hnames, ih]

/-! ## Adding plugins one by one

One plugin drives out those of its name and goes to the end. The fold over several of them has a closed
form in `without` and `latest`; the laws of merging are equations between such closed forms, in which only
the taken names are left to be compared. -/

/-- **What is left of plugins that others are added to.** -/
theorem foldl_addPlugin_eq (base plugins : List PluginConfig) :
    plugins.foldl addPlugin base = without (plugins.map (·.name)) base ++ latest plugins := by
  -- by the plugin that is added last, which drives out all earlier ones of its name
  induction plugins using List.reverseRecOn with
  | nil => simp [without, latest]
  | append_singleton plugins plugin ih =>
    have hadd : ∀ earlier, addPlugin earlier plugin = without [plugin.name] earlier ++ [plugin] := by
      intro earlier
      rw [addPlugin, without]
      congr 1
      exact List.filter_congr fun other _ => Bool.eq_iff_iff.2 (by simp)
    have hlatest : latest [plugin] = [plugin] := rfl
    rw [List.foldl_append, List.foldl_cons, List.foldl_nil, ih, hadd, without_append, without_without,
      latest_append, List.map_append, List.append_assoc, hlatest]
    rfl

theorem mem_names_foldl_addPlugin : name ∈ (plugins.foldl addPlugin base).map (·.name) ↔
    name ∈ base.map (·.name) ∨ name ∈ plugins.map (·.name) := by
  rw [foldl_addPlugin_eq, List.map_append, List.mem_append, mem_names_without, mem_names_latest]
  tauto

/-- The last plugin of each name among those that are left is the last among all of them. -/
theorem latest_foldl_addPlugin (base plugins : List PluginConfig) :
    latest (plugins.foldl addPlugin base) = latest (base ++ plugins) := by
  have hlast : latest (latest plugins) = latest plugins := latest_eq_self (nodup_names_latest plugins)
  rw [foldl_addPlugin_eq, latest_append, latest_append, latest_without, hlast, without_without]
  congr 1
  exact without_congr fun name => by rw [List.mem_append, mem_names_latest, or_self]

theorem foldl_addPlugin_assoc (base plugins others : List PluginConfig) :
    others.foldl addPlugin (plugins.foldl addPlugin base) =
      (others.foldl addPlugin plugins).foldl addPlugin base := by
  -- both sides drop the same names from the base and keep the same last ones
  rw [← List.foldl_append, foldl_addPlugin_eq base, foldl_addPlugin_eq base, latest_foldl_addPlugin]
  congr 1
  refine without_congr fun name => ?_
  rw [mem_names_foldl_addPlugin, List.map_append, List.mem_append]

theorem foldl_addPlugin_twice (base plugins : List PluginConfig) :
    plugins.foldl addPlugin (plugins.foldl addPlugin base) = plugins.foldl addPlugin base := by
  -- what the first round has added is driven out by the second one, which adds it again
  have hgone : without (plugins.map (·.name)) (latest plugins) = [] :=
    without_eq_nil fun plugin hm => mem_names_latest.1 (List.mem_map_of_mem hm)
  rw [foldl_addPlugin_eq, foldl_addPlugin_eq, without_append, without_without, hgone, List.append_nil]
  congr 1
  exact without_congr fun name => by rw [List.mem_append, or_self]

theorem nodup_names_foldl_addPlugin (h : (base.map (·.name)).Nodup) :
    ((plugins.foldl addPlugin base).map (·.name)).Nodup := by
  rw [foldl_addPlugin_eq, List.map_append]
  refine List.Nodup.append ?_ (nodup_names_latest plugins) ?_
  · exact h.sublist (List.filter_sublist.map _)
  · intro name hkept hadded
    exact (mem_names_without.1 hkept).2 (mem_names_latest.1 hadded)

/-- **Laying settings over others.** How several of them are put in brackets does not matter. What comes out
has the plugins that the later settings do not name, and behind them the last one of each name that these
have; in everything else the later settings count. Laying them over once more changes nothing. And no name
comes up twice if none did in the earlier settings, however often it may in the later ones. -/
theorem merge_laws (a b c : Config) :
    (a.merge b).merge c = a.merge (b.merge c) ∧
    a.merge b =
      { b with plugins := without (b.plugins.map (·.name)) a.plugins ++ latest b.plugins } ∧
    (a.merge b).merge b = a.merge b ∧
    ((a.plugins.map (·.name)).Nodup → ((a.merge b).plugins.map (·.name)).Nodup) := by
  refine ⟨?_, ?_, ?_, nodup_names_foldl_addPlugin⟩
  · simp only [merge, foldl_addPlugin_assoc]
  · rw [merge, foldl_addPlugin_eq]
  · simp only [merge, foldl_addPlugin_twice]

/-- A name that comes up three times, twice in the later settings, is the one of the last plugin. -/
theorem merge_laws_of_repeated :
    let earlier : Config := { plugins := [⟨"a", "1.yaml"⟩, ⟨"b", "2.yaml"⟩] }
    let later : Config := { plugins := [⟨"a", "3.yaml"⟩, ⟨"c", "4.yaml"⟩, ⟨"a", "5.yaml"⟩] }
    (earlier.plugins.map (·.name)).Nodup ∧
      (earlier.merge later).plugins = [⟨"b", "2.yaml"⟩, ⟨"c", "4.yaml"⟩, ⟨"a", "5.yaml"⟩] ∧
      ((earlier.merge later).plugins.map (·.name)).Nodup := by
  intro earlier later
  have hnodup : (earlier.plugins.map (·.name)).Nodup := by decide
  obtain ⟨-, hmerge, -, hdistinct⟩ := merge_laws earlier later {}
  refine ⟨hnodup, ?_, hdistinct hnodup⟩
  rw [hmerge]
  decide

end ClusterGraph.Config
