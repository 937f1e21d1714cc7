import Mathlib.Data.List.Basic
import Mathlib.Data.List.Infix
import Tabular.Storage.Files

/-! What stands at a path of a tree, and what operations on the tree need to stand there. -/
namespace Tabular

namespace FileTree
variable {tree tree' : FileTree} {path : Path} {entry : Entry}

theorem find_root (tree : FileTree) : tree.find [] = .ok .dir := rfl

theorem get?_set (tree : FileTree) (path : Path) (entry : Entry) (q : Path) :
    (tree.set path entry).entries.get? q = if q = path then some entry else tree.entries.get? q :=
  SortedMap.get?_insert _ _ _ _

theorem get?_unset (tree : FileTree) (path q : Path) :
    (tree.unset path).entries.get? q = if q = path then none else tree.entries.get? q :=
  SortedMap.get?_erase _ _ _

/-- What stands at a path is found from its directory. -/
theorem find_concat (tree : FileTree) (path : Path) (name : String) :
    tree.find (path ++ [name]) = tree.find path >>= fun entry => tree.walk path entry [name] := by
  -- A walk takes the first name of the path off, so the induction is on where the walk begins.
  have hwalk (parent : Path) (entry : Entry) : tree.walk parent entry (path ++ [name]) =
      tree.walk parent entry path >>= fun entry => tree.walk (parent ++ path) entry [name] := by
    induction path generalizing parent entry with
    | nil => rw [List.append_nil]; rfl
    | cons first rest ih =>
      cases entry with
      | file content => rfl
      | dir =>
        rw [List.cons_append, walk, walk]
        split
        · rfl
        · cases tree.entries.get? (parent ++ [first]) with
          | none => rfl
          | some next =>
            rw [show parent ++ first :: rest = parent ++ [first] ++ rest by simp]
            exact ih (parent ++ [first]) next
  exact hwalk [] .dir

theorem find_of_dir (h : tree.find path = .ok .dir) (name : String) :
    tree.find (path ++ [name]) =
      if nameLimit < (Text.Utf8.encode name).length then .error .nameTooLong
      else match tree.entries.get? (path ++ [name]) with
        | some entry => .ok entry
        | none => .error .notFound := by
  rw [find_concat, h]
  change tree.walk path .dir [name] = _
  rw [walk]
  split
  · rfl
  · cases tree.entries.get? (path ++ [name]) <;> rfl

theorem find_concat_eq_ok {name : String} : tree.find (path ++ [name]) = .ok entry ↔
    tree.find path = .ok .dir ∧ (Text.Utf8.encode name).length ≤ nameLimit ∧
      tree.entries.get? (path ++ [name]) = some entry := by
  by_cases hparent : tree.find path = .ok .dir
  · rw [find_of_dir hparent, and_iff_right hparent, ← Nat.not_lt]
    by_cases hlong : nameLimit < (Text.Utf8.encode name).length
    · simp [hlong]
    · cases tree.entries.get? (path ++ [name]) <;> simp [hlong]
  · refine ⟨fun h => ?_, fun h => (hparent h.1).elim⟩
    rw [find_concat] at h
    cases hfind : tree.find path with
    | error fault =>
      rw [hfind] at h
      cases h
    | ok parent =>
      rw [hfind] at h hparent
      cases parent with
      | dir => exact (hparent rfl).elim
      | file content => cases h

/-- What stands at a path depends on what is there and above. -/
theorem find_congr (h : ∀ p, p <+: path → tree.entries.get? p = tree'.entries.get? p) :
    tree.find path = tree'.find path := by
  induction path using List.reverseRecOn with
  | nil => rfl
  | append_singleton path name ih =>
    have hparent := ih fun p hp => h p (hp.trans (List.prefix_append path [name]))
    have hchild (parent : Entry) : tree.walk path parent [name] = tree'.walk path parent [name] := by
      cases parent with
      | file content => rfl
      | dir =>
        rw [walk, walk, h _ List.prefix_rfl]
        rfl
    rw [find_concat, find_concat, hparent]
    exact congrArg _ (funext hchild)

/-- A path at which, and above which, nothing is set leads where it led. -/
theorem find_set_of_not_prefix {p : Path} (h : ¬p <+: path) (entry : Entry) :
    (tree.set p entry).find path = tree.find path := by
  refine find_congr fun q hq => ?_
  rw [get?_set, if_neg]
  rintro rfl
  exact h hq

theorem find_unset_of_not_prefix {p : Path} (h : ¬p <+: path) :
    (tree.unset p).find path = tree.find path := by
  refine find_congr fun q hq => ?_
  rw [get?_unset, if_neg]
  rintro rfl
  exact h hq

/-- What is put in a directory, in the place of a file or of nothing, is there. -/
theorem find_set (hparent : tree.find path.dropLast = .ok .dir)
    (hplace : (∃ old, tree.find path = .ok (.file old)) ∨ tree.find path = .error .notFound)
    (entry : Entry) : (tree.set path entry).find path = .ok entry := by
  rcases List.eq_nil_or_concat' path with rfl | ⟨parent, name, rfl⟩
  · rcases hplace with ⟨old, hold⟩ | hfree
    · cases hold
    · cases hfree
  · rw [List.dropLast_concat] at hparent
    have hlimit : (Text.Utf8.encode name).length ≤ nameLimit := by
      rw [find_of_dir hparent] at hplace
      split at hplace
      · rcases hplace with ⟨old, hold⟩ | hfree
        · cases hold
        · cases hfree
      · next hlimit => exact Nat.not_lt.1 hlimit
    have hshort : ¬parent ++ [name] <+: parent := fun h => absurd h.length_le (by simp)
    rw [find_concat_eq_ok, find_set_of_not_prefix hshort, get?_set, if_pos rfl]
    exact ⟨hparent, hlimit, rfl⟩

section Operations

theorem isDir_iff : tree.isDir path = true ↔ tree.find path = .ok .dir := by
  rw [isDir]
  split
  · next h => simp [h]
  · next h => simpa using h

theorem isFile_iff : tree.isFile path = true ↔ ∃ content, tree.find path = .ok (.file content) := by
  rw [isFile]
  split
  · next content h => simp [h]
  · next h => simpa using h

theorem list_eq (tree : FileTree) (path : Path) : tree.list path =
    match tree.find path with
    | .ok .dir => .ok (tree.entries.keys.filterMap fun p =>
        if p.dropLast = path then p.getLast? else none)
    | .ok (.file _) => .error .notDirectory
    | .error fault => .error fault := by
  rw [list]
  cases tree.find path with
  | error fault => rfl
  | ok entry => cases entry <;> rfl

theorem create_eq_ok_iff : tree.create path entry = .ok tree' ↔
    tree.find path.dropLast = .ok .dir ∧ tree.find path = .error .notFound ∧
      tree' = tree.set path entry := by
  rw [create, list_eq]
  cases tree.find path.dropLast with
  | error fault => exact ⟨nofun, nofun⟩
  | ok parent =>
    cases parent with
    | file content => exact ⟨nofun, nofun⟩
    | dir =>
      cases tree.find path with
      | ok old => exact ⟨nofun, nofun⟩
      | error fault =>
        cases fault with
        | notFound =>
          exact ⟨fun h => ⟨rfl, rfl, (Except.ok.inj h).symm⟩, fun h => congrArg _ h.2.2.symm⟩
        | _ => exact ⟨nofun, nofun⟩

theorem find_of_create (h : tree.create path entry = .ok tree') : tree'.find path = .ok entry := by
  obtain ⟨hparent, hfree, rfl⟩ := create_eq_ok_iff.1 h
  exact find_set hparent (.inr hfree) entry

theorem replace_eq_ok_iff {content : List UInt8} : tree.replace path content = .ok tree' ↔
    tree.find path.dropLast = .ok .dir ∧
      ((∃ old, tree.find path = .ok (.file old)) ∨ tree.find path = .error .notFound) ∧
      tree' = tree.set path (.file content) := by
  rw [replace, list_eq]
  cases tree.find path.dropLast with
  | error fault => exact ⟨nofun, nofun⟩
  | ok parent =>
    cases parent with
    | file content => exact ⟨nofun, nofun⟩
    | dir =>
      have hset : Except.ok (ε := FileFault) (tree.set path (.file content)) = .ok tree' ↔
          tree' = tree.set path (.file content) :=
        ⟨fun h => (Except.ok.inj h).symm, fun h => congrArg _ h.symm⟩
      cases tree.find path with
      | ok old =>
        cases old with
        | dir => exact ⟨nofun, nofun⟩
        | file old => exact hset.trans ⟨fun h => ⟨rfl, .inl ⟨old, rfl⟩, h⟩, fun h => h.2.2⟩
      | error fault =>
        cases fault with
        | notFound => exact hset.trans ⟨fun h => ⟨rfl, .inr rfl, h⟩, fun h => h.2.2⟩
        | _ => exact ⟨nofun, nofun⟩

theorem find_of_replace {content : List UInt8} (h : tree.replace path content = .ok tree') :
    tree'.find path = .ok (.file content) := by
  obtain ⟨hparent, hplace, rfl⟩ := replace_eq_ok_iff.1 h
  exact find_set hparent hplace (.file content)

theorem removeFile_eq_ok_iff : tree.removeFile path = .ok tree' ↔
    (∃ content, tree.find path = .ok (.file content)) ∧ tree' = tree.unset path := by
  rw [removeFile, read]
  cases tree.find path with
  | error fault => exact ⟨nofun, nofun⟩
  | ok old =>
    cases old with
    | dir => exact ⟨nofun, nofun⟩
    | file content =>
      exact ⟨fun h => ⟨⟨content, rfl⟩, (Except.ok.inj h).symm⟩, fun h => congrArg _ h.2.symm⟩

end Operations

end FileTree

namespace Files
open FileTree
variable {tree tree' : FileTree}

/-- What a step that is refused or not does to a tree. -/
theorem step_apply (f : FileTree → Except FileFault FileTree) (tree : FileTree) :
    step f tree = match f tree with
      | .ok tree' => .ok () tree'
      | .error fault => .error (.storage (.file fault)) tree := by
  change EStateM.bind (ofExcept (ofFile (f tree)) : EStateM Error FileTree FileTree) set tree = _
  cases f tree <;> rfl

theorem step_eq_ok_iff {f : FileTree → Except FileFault FileTree} :
    step f tree = .ok () tree' ↔ f tree = .ok tree' := by
  rw [step_apply]
  cases f tree <;> simp

theorem bind_apply (x y : EStateM Error FileTree Unit) (tree : FileTree) :
    (x >>= fun _ => y) tree = match x tree with
      | .ok _ tree' => y tree'
      | .error e tree' => .error e tree' := by
  change EStateM.bind x (fun _ => y) tree = _
  rw [EStateM.bind]
  cases x tree <;> rfl

theorem change_writeTable_apply (d t : String) (lines : List String) (tree : FileTree) :
    change (.writeTable d t lines) tree =
      if tree.isFile (tablePath d t) then step (·.replace (tablePath d t) (writeLines lines)) tree
      else .error (.schema (.noTable t)) tree := by
  change (if (!tree.isFile (tablePath d t)) = true then _ else _ : EStateM Error FileTree Unit)
    tree = _
  cases tree.isFile (tablePath d t) <;> rfl

theorem change_deleteDatabase_apply (d : String) (tree : FileTree) :
    change (.deleteDatabase d) tree =
      if (tree.find (marksPath d)).isOk then
        (step (·.removeFile (marksPath d)) >>= fun _ => step (·.removeDir [d])) tree
      else step (·.removeDir [d]) tree := by
  change (if (tree.find (marksPath d)).isOk = true then EStateM.bind _ _ else _ :
    EStateM Error FileTree Unit) _ = _
  split <;> rfl

section Questions
variable {d t : String} {content : List UInt8}

theorem ask_readTable_of_find (h : tree.find (tablePath d t) = .ok (.file content)) :
    ask (.readTable d t) tree = readLines content := by
  rw [ask, isFile, FileTree.read, h]
  rfl

theorem ask_loadIdMarks_of_find (h : tree.find (marksPath d) = .ok (.file content)) :
    ask (.loadIdMarks d) tree = (IdMarks.decode content).mapError (.storage ∘ .marks) := by
  rw [ask, isFile, FileTree.read, h]
  rfl

end Questions

end Files

end Tabular
