import Tabular.Proofs.Storage.Finding
import Tabular.Proofs.Storage.LinesCodec

/-! Lines of tables in files: where they can be stored, and what is read of them afterwards. -/
namespace Tabular.Files
open FileTree
variable {tree tree' : FileTree} {d t : String} {lines : List String}

theorem change_createTable_eq_ok_iff : change (.createTable d t lines) tree = .ok () tree' ↔
    tree.create (tablePath d t) (.file (writeLines lines)) = .ok tree' :=
  step_eq_ok_iff

theorem change_writeTable_eq_ok_iff : change (.writeTable d t lines) tree = .ok () tree' ↔
    tree.isFile (tablePath d t) = true ∧
      tree.replace (tablePath d t) (writeLines lines) = .ok tree' := by
  rw [change_writeTable_apply]
  cases tree.isFile (tablePath d t) with
  | false => exact ⟨nofun, nofun⟩
  | true => exact step_eq_ok_iff.trans (and_iff_right rfl).symm

/-- A file for a table is made exactly in a directory, where nothing stands. -/
theorem exists_createTable_iff : (∃ tree', change (.createTable d t lines) tree = .ok () tree') ↔
    tree.isDir [d] = true ∧ tree.find (tablePath d t) = .error .notFound := by
  simp only [change_createTable_eq_ok_iff, create_eq_ok_iff, isDir_iff]
  constructor
  · rintro ⟨tree', hparent, hfree, -⟩
    exact ⟨hparent, hfree⟩
  · rintro ⟨hparent, hfree⟩
    exact ⟨_, hparent, hfree, rfl⟩

/-- The file of a table is replaced exactly if it is there. -/
theorem exists_writeTable_iff : (∃ tree', change (.writeTable d t lines) tree = .ok () tree') ↔
    tree.isFile (tablePath d t) = true := by
  simp only [change_writeTable_eq_ok_iff, replace_eq_ok_iff]
  constructor
  · rintro ⟨tree', hfile, -⟩
    exact hfile
  · intro hfile
    obtain ⟨content, hcontent⟩ := isFile_iff.1 hfile
    have hparent : tree.find [d] = .ok .dir := by
      have hpath : tree.find ([d] ++ [t ++ extension]) = .ok (.file content) := hcontent
      exact (find_concat_eq_ok.1 hpath).1
    exact ⟨_, hfile, hparent, .inl ⟨content, hcontent⟩, rfl⟩

theorem find_of_stored (h : change (.createTable d t lines) tree = .ok () tree' ∨
    change (.writeTable d t lines) tree = .ok () tree') :
    tree'.find (tablePath d t) = .ok (.file (writeLines lines)) := by
  rcases h with h | h
  · exact find_of_create (change_createTable_eq_ok_iff.1 h)
  · exact find_of_replace (change_writeTable_eq_ok_iff.1 h).2

/-- Lines can be stored for a new table of a database, and for a table that is there. Afterwards they
are read back exactly if none of them holds a line feed or ends with a carriage return, and in any
case every line feed in them makes one line more. -/
theorem stored_lines_iff (tree : FileTree) (d t : String) (lines : List String) :
    ((∃ tree', change (.createTable d t lines) tree = .ok () tree') ↔
      tree.isDir [d] = true ∧ tree.find (tablePath d t) = .error .notFound) ∧
    ((∃ tree', change (.writeTable d t lines) tree = .ok () tree') ↔
      tree.isFile (tablePath d t) = true) ∧
    ∀ tree', change (.createTable d t lines) tree = .ok () tree' ∨
        change (.writeTable d t lines) tree = .ok () tree' →
      ∃ found, ask (.readTable d t) tree' = .ok found ∧
        (found = lines ↔ ∀ line ∈ lines, '\n' ∉ line.toList ∧ line.toList.getLast? ≠ some '\r') ∧
        found.length = lines.length + (lines.flatMap String.toList).count '\n' := by
  refine ⟨exists_createTable_iff, exists_writeTable_iff, fun tree' h => ?_⟩
  refine ⟨Text.lines (Text.unlines lines), ?_, Text.lines_unlines_iff,
    Text.length_lines_unlines lines⟩
  rw [ask_readTable_of_find (find_of_stored h), readLines_writeLines_eq]

/-- Of two lines, one holds a line feed: they are stored, and three lines are read back. -/
theorem stored_lines_iff_embedded :
    ∃ tree', change (.createTable "d" "t" ["a\nb", "c\r"]) (FileTree.set {} ["d"] .dir) =
        .ok () tree' ∧
      ∃ found, ask (.readTable "d" "t") tree' = .ok found ∧ found ≠ ["a\nb", "c\r"] ∧
        found.length = 3 := by
  obtain ⟨hcreate, -, hread⟩ :=
    stored_lines_iff (FileTree.set {} ["d"] .dir) "d" "t" ["a\nb", "c\r"]
  obtain ⟨tree', htree⟩ := hcreate.2 ⟨by decide, by decide⟩
  obtain ⟨found, hfound, hsame, hlength⟩ := hread tree' (.inl htree)
  refine ⟨tree', htree, found, hfound, fun he => ?_, hlength.trans (by decide)⟩
  exact absurd (hsame.1 he) (by decide)

end Tabular.Files
