import Tabular.Proofs.Storage.Paths

/-! Id marks in files: where they can be saved, what saving them leaves as it was, and what is loaded
of the bytes of their file. -/
namespace Tabular

namespace SortedMap
variable {κ α β : Type} [LE κ] [LT κ] [DecidableLT κ] [Std.IsLinearOrder κ] [Std.LawfulOrderLT κ]

theorem filterMap_keys_insert {f : κ → Option β} {k : κ} (hk : f k = none) (m : SortedMap κ α)
    (v : α) : (m.insert k v).keys.filterMap f = m.keys.filterMap f := by
  have hput (l : List (κ × α)) :
      ((put k v l).map (·.1)).filterMap f = (l.map (·.1)).filterMap f := by
    induction l with
    | nil => simp [put, hk]
    | cons e rest ih =>
      rw [put]
      split
      · simp [hk]
      · split
        · rw [List.map_cons, List.map_cons, List.filterMap_cons, List.filterMap_cons, ih]
        · next hlt hgt =>
          have he : k = e.1 := by
            rcases Std.lt_trichotomy k e.1 with h | h | h
            · exact (hlt h).elim
            · exact h
            · exact (hgt h).elim
          simp [he]
  exact hput m.entries

end SortedMap

namespace FileTree

/-- Directories stand right below the root, and nowhere else. -/
def Flat (tree : FileTree) : Prop :=
  ∀ path, tree.entries.get? path = some .dir → path.length = 1

theorem flat_empty : Flat {} := by
  intro path h
  cases h

variable {tree : FileTree} {path : Path}

theorem Flat.set (h : tree.Flat) {entry : Entry} (hentry : entry = .dir → path.length = 1) :
    (tree.set path entry).Flat := by
  intro q hq
  rw [get?_set] at hq
  split at hq
  · next hpath =>
    rw [hpath]
    exact hentry (Option.some.inj hq)
  · exact h q hq

theorem Flat.unset (h : tree.Flat) (path : Path) : (tree.unset path).Flat := by
  intro q hq
  rw [get?_unset] at hq
  split at hq
  · cases hq
  · exact h q hq

theorem Flat.isDir_eq_false (h : tree.Flat) (d file : String) : tree.isDir [d, file] = false := by
  rw [Bool.eq_false_iff]
  intro hdir
  have hfind : tree.find ([d] ++ [file]) = .ok .dir := isDir_iff.1 hdir
  have hlength := h _ (find_concat_eq_ok.1 hfind).2.2
  cases hlength

end FileTree

namespace Files
open FileTree

section Reached

/-- The trees that storage leaves: after changes of an empty one, made or refused. -/
inductive Reached : FileTree → Prop where
  | empty : Reached {}
  | changed (c : Change) {tree : FileTree} (h : Reached tree) : Reached (after (change c tree))

def KeepsFlat (x : EStateM Error FileTree Unit) : Prop :=
  ∀ tree : FileTree, tree.Flat → (after (x tree)).Flat

theorem keepsFlat_step {f : FileTree → Except FileFault FileTree}
    (hf : ∀ tree tree' : FileTree, f tree = .ok tree' → tree.Flat → tree'.Flat) :
    KeepsFlat (step f) := by
  intro tree h
  rw [step_apply]
  cases hu : f tree with
  | error fault => exact h
  | ok tree' => exact hf tree tree' hu h

theorem keepsFlat_replace (d file : String) (content : List UInt8) :
    KeepsFlat (step (·.replace [d, file] content)) := by
  refine keepsFlat_step fun tree tree' hu h => ?_
  obtain ⟨-, -, rfl⟩ := replace_eq_ok_iff.1 hu
  exact h.set nofun

theorem keepsFlat_removeFile (path : Path) : KeepsFlat (step (·.removeFile path)) := by
  refine keepsFlat_step fun tree tree' hu h => ?_
  obtain ⟨-, rfl⟩ := removeFile_eq_ok_iff.1 hu
  exact h.unset path

theorem keepsFlat_removeDir (path : Path) : KeepsFlat (step (·.removeDir path)) := by
  refine keepsFlat_step fun tree tree' hu h => ?_
  rw [eq_unset_of_removeDir hu]
  exact h.unset path

theorem keepsFlat_change (c : Change) : KeepsFlat (change c) := by
  cases c with
  | createDatabase d =>
    refine keepsFlat_step fun tree tree' hu h => ?_
    obtain ⟨-, -, rfl⟩ := create_eq_ok_iff.1 hu
    exact h.set fun _ => rfl
  | createTable d t lines =>
    refine keepsFlat_step fun tree tree' hu h => ?_
    obtain ⟨-, -, rfl⟩ := create_eq_ok_iff.1 hu
    exact h.set nofun
  | writeTable d t lines =>
    intro tree h
    rw [change_writeTable_apply]
    split
    · exact keepsFlat_replace d _ _ tree h
    · exact h
  | deleteTable d t => exact keepsFlat_removeFile _
  | saveIdMarks d marks => exact keepsFlat_replace d _ _
  | deleteDatabase d =>
    intro tree h
    have hmarks := keepsFlat_removeFile (marksPath d) tree h
    rw [change_deleteDatabase_apply]
    split
    · rw [bind_apply]
      cases hu : step (·.removeFile (marksPath d)) tree with
      | ok _ tree' =>
        rw [hu] at hmarks
        exact keepsFlat_removeDir [d] tree' hmarks
      | error e tree' =>
        rw [hu] at hmarks
        exact hmarks
    · exact keepsFlat_removeDir [d] tree h

theorem Reached.flat {tree : FileTree} (h : Reached tree) : tree.Flat := by
  induction h with
  | empty => exact flat_empty
  | changed c _ ih => exact keepsFlat_change c _ ih

end Reached

section Saved
variable {tree tree' : FileTree} {d : String} {marks : IdMarks}

theorem change_saveIdMarks_eq_ok_iff : change (.saveIdMarks d marks) tree = .ok () tree' ↔
    tree.replace (marksPath d) marks.encode = .ok tree' :=
  step_eq_ok_iff

/-- Id marks are saved exactly in a directory, unless a directory stands where their file would. -/
theorem exists_saveIdMarks_iff : (∃ tree', change (.saveIdMarks d marks) tree = .ok () tree') ↔
    tree.isDir [d] = true ∧ tree.isDir (marksPath d) = false := by
  rw [Bool.eq_false_iff, Ne, isDir_iff, isDir_iff]
  simp only [change_saveIdMarks_eq_ok_iff, replace_eq_ok_iff]
  constructor
  · rintro ⟨tree', hparent, ⟨old, hold⟩ | hfree, -⟩
    · exact ⟨hparent, by simp [hold]⟩
    · exact ⟨hparent, by simp [hfree]⟩
  · rintro ⟨hparent, hdir⟩
    refine ⟨_, hparent, ?_, rfl⟩
    have hfind := find_of_dir hparent ".ids"
    rw [if_neg (by decide)] at hfind
    change tree.find (marksPath d) = _ at hfind
    rw [hfind] at hdir ⊢
    cases he : tree.entries.get? ([d] ++ [".ids"]) with
    | none => exact .inr rfl
    | some entry =>
      rw [he] at hdir
      cases entry with
      | dir => exact (hdir rfl).elim
      | file content => exact .inl ⟨content, rfl⟩

theorem ask_set_marksPath (tree : FileTree) (d : String) (content : List UInt8) :
    (∀ e t, ask (.readTable e t) (tree.set (marksPath d) (.file content)) =
      ask (.readTable e t) tree) ∧
    ∀ e, ask (.listTables e) (tree.set (marksPath d) (.file content)) = ask (.listTables e) tree := by
  constructor
  · intro e t
    have hfind : (tree.set (marksPath d) (.file content)).find (tablePath e t) =
        tree.find (tablePath e t) :=
      find_set_of_not_prefix (fun h => marksPath_ne_tablePath d e t (h.eq_of_length rfl)) _
    rw [ask, ask, isFile, isFile, FileTree.read, FileTree.read, hfind]
  · intro e
    have hfind : (tree.set (marksPath d) (.file content)).find [e] = tree.find [e] :=
      find_set_of_not_prefix (fun h => absurd h.length_le (by simp [marksPath])) _
    by_cases hdir : tree.find [e] = .ok .dir
    · have hmarks : tableAt? e (marksPath d) = none := by
        rw [Option.eq_none_iff_forall_ne_some]
        intro t ht
        exact marksPath_ne_tablePath d e t (tableAt?_eq_some.1 ht).1
      rw [ask_listTables_of_find hdir, ask_listTables_of_find (hfind.trans hdir)]
      exact congrArg (fun l => Except.ok (l.mergeSort (· ≤ ·)))
        (SortedMap.filterMap_keys_insert hmarks _ _)
    · rw [ask, ask, list_eq, list_eq, hfind]
      cases he : tree.find [e] with
      | error fault => rfl
      | ok entry =>
        cases entry with
        | dir => exact (hdir he).elim
        | file content => rfl

/-- Loading id marks gives marks or a failure of storage. -/
theorem ask_loadIdMarks_outcome (tree : FileTree) (d : String) :
    (∃ found, ask (.loadIdMarks d) tree = .ok found) ∨
      ∃ fault, ask (.loadIdMarks d) tree = .error (.storage fault) := by
  cases hfile : tree.isFile (marksPath d) with
  | false =>
    refine .inl ⟨∅, ?_⟩
    rw [ask, hfile]
    rfl
  | true =>
    obtain ⟨content, hcontent⟩ := isFile_iff.1 hfile
    rw [ask_loadIdMarks_of_find hcontent]
    cases IdMarks.decode content with
    | ok found => exact .inl ⟨found, rfl⟩
    | error fault => exact .inr ⟨.marks fault, rfl⟩

/-- Id marks of which the number and the lengths of the names fit in eight bytes are saved in every
database that storage makes, and are loaded again whatever was there before, and all tables stay as
they were. Bytes after the encoded marks change nothing, bytes that break off before their end are
refused, and loading of any file gives marks or a failure of storage. -/
theorem saved_marks_loaded (d : String) (marks : IdMarks) (hcount : marks.entries.length < 2 ^ 64)
    (hnames : ∀ e ∈ marks.entries, (Text.Utf8.encode e.1).length < 2 ^ 64) :
    (∀ tree, (∃ tree', change (.saveIdMarks d marks) tree = .ok () tree') ↔
      tree.isDir [d] = true ∧ tree.isDir (marksPath d) = false) ∧
    (∀ tree, Reached tree → tree.isDir (marksPath d) = false) ∧
    (∀ tree tree', change (.saveIdMarks d marks) tree = .ok () tree' →
      ask (.loadIdMarks d) tree' = .ok marks ∧
        (∀ e t, ask (.readTable e t) tree' = ask (.readTable e t) tree) ∧
        ∀ e, ask (.listTables e) tree' = ask (.listTables e) tree) ∧
    (∀ tree content, tree.find (marksPath d) = .ok (.file content) →
      (marks.encode <+: content → ask (.loadIdMarks d) tree = .ok marks) ∧
        (content <+: marks.encode → content ≠ marks.encode →
          ∃ fault, ask (.loadIdMarks d) tree = .error (.storage (.marks fault)))) ∧
    ∀ tree, (∃ found, ask (.loadIdMarks d) tree = .ok found) ∨
      ∃ fault, ask (.loadIdMarks d) tree = .error (.storage fault) := by
  have hload {tree : FileTree} {rest : List UInt8}
      (h : tree.find (marksPath d) = .ok (.file (marks.encode ++ rest))) :
      ask (.loadIdMarks d) tree = .ok marks := by
    rw [ask_loadIdMarks_of_find h, IdMarks.decode_encode_append hcount hnames]
    rfl
  refine ⟨fun tree => exists_saveIdMarks_iff, fun tree h => h.flat.isDir_eq_false d ".ids",
    fun tree tree' h => ?_, fun tree content h => ⟨?_, ?_⟩,
    fun tree => ask_loadIdMarks_outcome tree d⟩
  · have hreplace := change_saveIdMarks_eq_ok_iff.1 h
    have hfind : tree'.find (marksPath d) = .ok (.file (marks.encode ++ [])) := by
      rw [List.append_nil]
      exact find_of_replace hreplace
    have hloaded := hload hfind
    obtain ⟨-, -, rfl⟩ := replace_eq_ok_iff.1 hreplace
    exact ⟨hloaded, ask_set_marksPath tree d marks.encode⟩
  · rintro ⟨rest, rfl⟩
    exact hload h
  · rintro ⟨missing, hmissing⟩ hne
    have hcut : missing ≠ [] := by
      rintro rfl
      exact hne (by rw [← hmissing, List.append_nil])
    obtain ⟨fault, hfault⟩ := IdMarks.decode_cut hcount hnames hmissing.symm hcut
    rw [ask_loadIdMarks_of_find h, hfault]
    exact ⟨fault, rfl⟩

/-- The marks of a new database are saved and loaded, and are refused if the file breaks off. -/
theorem saved_marks_loaded_cut :
    (∃ tree', change (.saveIdMarks "d" (SortedMap.ofList [("t", 7)]))
        (after (change (.createDatabase "d") {})) = .ok () tree' ∧
      ask (.loadIdMarks "d") tree' = .ok (SortedMap.ofList [("t", 7)])) ∧
    ∃ fault, ask (.loadIdMarks "d") ((after (change (.createDatabase "d") {})).set (marksPath "d")
      (.file ((IdMarks.encode (SortedMap.ofList [("t", 7)])).take 12))) =
        .error (.storage (.marks fault)) := by
  obtain ⟨hsave, hreached, hload, hbytes, -⟩ :=
    saved_marks_loaded "d" (SortedMap.ofList [("t", 7)]) (by decide) (by decide)
  constructor
  · have htree := hreached _ (.changed (.createDatabase "d") .empty)
    obtain ⟨tree', hsaved⟩ := (hsave _).2 ⟨by decide, htree⟩
    exact ⟨tree', hsaved, (hload _ tree' hsaved).1⟩
  · exact (hbytes _ _ (by decide)).2 (List.take_prefix 12 _) (by decide)

end Saved

end Files

end Tabular
