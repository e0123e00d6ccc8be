import ClusterGraph.Fallible
import ClusterGraph.File.Tree

/-!
# Files that are written and read back

* **`write_eq_ok`** — what it takes for a file to be written: directories all the way to its place, and no
  directory at the place itself.
* **`read_of_write`** — the text that was written is the text that is read. The entry at the place is new, but
  no path to this place leads over it: what one passes on the way are directories, before and after.
-/

namespace ClusterGraph.FileTree

variable {tree tree' : FileTree} {place written target path text : String} {entry : FileEntry}

/-! ## What stands at a place

The root is a directory that no entry stands for. Everywhere else an entry that is put somewhere is found
there, and what is found at other places is what was there. -/

theorem entry?_put (hw : written ≠ "") :
    entry? (tree.put written entry) place =
      if written = place then some entry else tree.entry? place := by
  by_cases hp : place = ""
  · subst hp
    rw [if_neg hw]
    rfl
  · have hempty : place.isEmpty = false := by simpa using hp
    unfold entry?
    simp only [hempty, put, Std.ExtTreeMap.get?_eq_getElem?, Dict.getElem?_insert]
    simp

/-- The root is a directory. -/
theorem ne_root_of_not_directory (h : tree.entry? place ≠ some .directory) : place ≠ "" := by
  rintro rfl
  exact h rfl

theorem entry?_put_self (h : tree.entry? written ≠ some .directory) :
    entry? (tree.put written entry) written = some entry := by
  rw [entry?_put (ne_root_of_not_directory h), if_pos rfl]

theorem entry?_put_of_directory (h : tree.entry? written ≠ some .directory)
    (hd : tree.entry? place = some .directory) :
    entry? (tree.put written entry) place = some .directory := by
  have hne : written ≠ place := by
    rintro rfl
    exact h hd
  rw [entry?_put (ne_root_of_not_directory h), if_neg hne, hd]

/-! ## Following a path

A path is followed name by name, each time from a directory. A file that is put where no directory was is
passed by no path, and so every path that led somewhere still does. -/

theorem follow_nil_eq_ok :
    tree.follow place [] = .ok target ↔ place = target ∧ (tree.entry? place).isSome := by
  rw [follow]
  split <;> simp [*]

/-- A name leads on from a directory only. -/
theorem follow_cons_eq_ok {name : String} {rest : List String} :
    tree.follow place (name :: rest) = .ok target ↔
      tree.entry? place = some .directory ∧ tree.follow (step place name) rest = .ok target := by
  rw [follow]
  split <;> simp [*]

/-- A way through directories is not changed by an entry at a place where no directory was. -/
theorem follow_put (h : tree.entry? written ≠ some .directory) {names : List String}
    (hf : tree.follow place names = .ok target) (ht : tree.entry? target = some .directory) :
    (tree.put written entry).follow place names = .ok target := by
  -- by the names of the path; the place is where the walk has got to
  induction names generalizing place with
  | nil =>
    obtain ⟨rfl, _⟩ := follow_nil_eq_ok.1 hf
    exact follow_nil_eq_ok.2 ⟨rfl, by rw [entry?_put_of_directory h ht]; rfl⟩
  | cons name rest ih =>
    obtain ⟨hd, hrest⟩ := follow_cons_eq_ok.1 hf
    exact follow_cons_eq_ok.2 ⟨entry?_put_of_directory h hd, ih hrest⟩

/-- One more name leads on from a directory, to where something stands. -/
theorem follow_concat {names : List String} {name : String}
    (hf : tree.follow place names = .ok target) (hd : tree.entry? target = some .directory)
    (hs : (tree.entry? (step target name)).isSome) :
    tree.follow place (names ++ [name]) = .ok (step target name) := by
  induction names generalizing place with
  | nil =>
    obtain ⟨rfl, _⟩ := follow_nil_eq_ok.1 hf
    exact follow_cons_eq_ok.2 ⟨hd, follow_nil_eq_ok.2 ⟨rfl, hs⟩⟩
  | cons first rest ih =>
    obtain ⟨hp, hrest⟩ := follow_cons_eq_ok.1 hf
    exact follow_cons_eq_ok.2 ⟨hp, ih hrest⟩

/-! ## Writing and reading

A write that succeeds is inverted into everything that it has checked on its way. That is enough to follow
the same path afterwards, up to the last name, behind which the new file stands. -/

/-- A file is written by its last name in a directory to which all other names lead. -/
theorem write_eq_ok (h : tree.write path text = .ok tree') :
    ∃ before name directory, FilePath.names path = before ++ [name] ∧ path.isEmpty = false ∧
      Text.endsWith "/" path = false ∧ tree.follow (tree.origin path) before = .ok directory ∧
      tree.entry? directory = some .directory ∧
      tree.entry? (step directory name) ≠ some .directory ∧
      tree' = tree.put (step directory name) (.file text) := by
  rw [write, check_eq_ok] at h
  -- a path without a last name is refused, then one whose directory is none, and then one to a directory
  obtain ⟨hempty, h⟩ := h
  split at h
  · cases h
  · next name before hnames =>
    obtain ⟨directory, hf, h⟩ := bind_eq_ok.1 h
    split at h
    · next hd =>
      rw [check_eq_ok, putFile] at h
      obtain ⟨hslash, h⟩ := h
      split at h
      · cases h
      · next hfree =>
        cases h
        refine ⟨before.reverse, name, directory, ?_, by simpa using hempty, by simpa using hslash,
          hf, hd, hfree, rfl⟩
        rw [← List.reverse_inj, hnames]
        simp
    · cases h

/-- What was written is read. -/
theorem read_of_write (h : tree.write path text = .ok tree') : tree'.read path = .ok text := by
  obtain ⟨before, name, directory, hnames, hempty, hslash, hf, hd, hfree, rfl⟩ := write_eq_ok h
  have hself : entry? (tree.put (step directory name) (.file text)) (step directory name) =
      some (.file text) := entry?_put_self hfree
  -- the path to read is the path to write, without a slash at its end
  have hlocate : (tree.put (step directory name) (.file text)).locate path =
      .ok (step directory name) := by
    have hsteps : FilePath.steps path = before ++ [name] := by
      rw [FilePath.steps, hslash, hnames]
      rfl
    rw [locate, hempty, hsteps]
    exact follow_concat (follow_put hfree hf hd) (entry?_put_of_directory hfree hd)
      (by rw [hself]; rfl)
  simp only [read, hlocate, bind, Except.bind, hself]

/-- A path that can be read leads to something. -/
theorem contains_of_read (h : tree.read path = .ok text) : tree.contains path = true := by
  obtain ⟨place, hlocate, _⟩ := bind_eq_ok.1 h
  rw [contains, hlocate]
  rfl

end ClusterGraph.FileTree
