import Tabular.Proofs.Storage.Image
import Tabular.Proofs.Storage.StoredNames

/-! A change that a memory allows is made to its files too, and they are the files of the memory
that is changed. -/
namespace Tabular

namespace FileTree
variable {tree : FileTree} {path : Path}

theorem removeDir_ok (h : tree.find path = .ok .dir)
    (hempty : ∀ p ∈ tree.entries.keys, p.dropLast = path → p = []) :
    tree.removeDir path = .ok (tree.unset path) := by
  have hnone :
      (tree.entries.keys.filterMap fun p =>
        if p.dropLast = path then p.getLast? else none) = [] := by
    rw [List.filterMap_eq_nil_iff]
    intro p hp
    split
    · next hparent => rw [hempty p hp hparent]; rfl
    · rfl
  have hlist : tree.list path = .ok [] := by
    rw [list_eq, h]
    exact congrArg Except.ok hnone
  rw [removeDir, hlist]
  rfl

end FileTree

namespace Files

namespace Image
variable {tree : FileTree} {m m' : Memory} {d t : String}

theorem setDirectory (h : Image tree m) (hnew : m.marks? d = none)
    (hmarks : ∀ e, m'.marks? e = if e = d then some ∅ else m.marks? e)
    (hlines : ∀ e u, m'.lines? e u = m.lines? e u) : Image (tree.set [d] .dir) m' := by
  constructor
  · intro e
    rw [FileTree.get?_set, hmarks, h.directory]
    by_cases he : e = d
    · rw [if_pos he, if_pos (by rw [he])]
      rfl
    · rw [if_neg he, if_neg (by simpa using he)]
  · intro e u
    rw [FileTree.get?_set, if_neg (tablePath_ne_directory e d u), hlines, h.table]
  · intro e marks hnone hm
    rw [FileTree.get?_set, if_neg (marksPath_ne_directory e d)] at hnone
    rw [hmarks] at hm
    split at hm
    · exact (Option.some.inj hm).symm
    · exact h.unmarked e marks hnone hm
  · intro e entry hentry
    rw [FileTree.get?_set, if_neg (marksPath_ne_directory e d)] at hentry
    obtain ⟨content, marks, hcontent, hm, hdecode⟩ := h.marked e entry hentry
    have hne : e ≠ d := by
      rintro rfl
      rw [hnew] at hm
      cases hm
    refine ⟨content, marks, hcontent, ?_, hdecode⟩
    rw [hmarks, if_neg hne, hm]
  · intro path entry hentry
    rw [FileTree.get?_set] at hentry
    split at hentry
    · next hpath => exact .inl ⟨d, hpath⟩
    · exact h.nothing path entry hentry

theorem unsetDirectory (h : Image tree m) (hunmarked : tree.entries.get? (marksPath d) = none)
    (hmarks : ∀ e, m'.marks? e = if e = d then none else m.marks? e)
    (hlines : ∀ e u, m'.lines? e u = m.lines? e u) : Image (tree.unset [d]) m' := by
  constructor
  · intro e
    rw [FileTree.get?_unset, hmarks, h.directory]
    by_cases he : e = d
    · rw [if_pos he, if_pos (by rw [he])]
      rfl
    · rw [if_neg he, if_neg (by simpa using he)]
  · intro e u
    rw [FileTree.get?_unset, if_neg (tablePath_ne_directory e d u), hlines, h.table]
  · intro e marks hnone hm
    rw [FileTree.get?_unset, if_neg (marksPath_ne_directory e d)] at hnone
    rw [hmarks] at hm
    split at hm
    · cases hm
    · exact h.unmarked e marks hnone hm
  · intro e entry hentry
    rw [FileTree.get?_unset, if_neg (marksPath_ne_directory e d)] at hentry
    obtain ⟨content, marks, hcontent, hm, hdecode⟩ := h.marked e entry hentry
    have hne : e ≠ d := by
      rintro rfl
      rw [hunmarked] at hentry
      cases hentry
    refine ⟨content, marks, hcontent, ?_, hdecode⟩
    rw [hmarks, if_neg hne, hm]
  · intro path entry hentry
    rw [FileTree.get?_unset] at hentry
    split at hentry
    · cases hentry
    · exact h.nothing path entry hentry

theorem setTable (h : Image tree m) {lines : List String} (hmarks : ∀ e, m'.marks? e = m.marks? e)
    (hlines : ∀ e u, m'.lines? e u = if e = d ∧ u = t then some lines else m.lines? e u) :
    Image (tree.set (tablePath d t) (.file (writeLines lines))) m' := by
  constructor
  · intro e
    rw [FileTree.get?_set, if_neg (Ne.symm (tablePath_ne_directory d e t)), hmarks, h.directory]
  · intro e u
    rw [FileTree.get?_set, hlines, h.table]
    by_cases he : e = d ∧ u = t
    · rw [if_pos he, if_pos (tablePath_inj.2 he)]
      rfl
    · rw [if_neg he, if_neg (mt tablePath_inj.1 he)]
  · intro e marks hnone hm
    rw [FileTree.get?_set, if_neg (marksPath_ne_tablePath e d t)] at hnone
    exact h.unmarked e marks hnone (hmarks e ▸ hm)
  · intro e entry hentry
    rw [FileTree.get?_set, if_neg (marksPath_ne_tablePath e d t)] at hentry
    rw [hmarks]
    exact h.marked e entry hentry
  · intro path entry hentry
    rw [FileTree.get?_set] at hentry
    split at hentry
    · next hpath => exact .inr (.inl ⟨d, t, hpath⟩)
    · exact h.nothing path entry hentry

theorem unsetTable (h : Image tree m) (hmarks : ∀ e, m'.marks? e = m.marks? e)
    (hlines : ∀ e u, m'.lines? e u = if e = d ∧ u = t then none else m.lines? e u) :
    Image (tree.unset (tablePath d t)) m' := by
  constructor
  · intro e
    rw [FileTree.get?_unset, if_neg (Ne.symm (tablePath_ne_directory d e t)), hmarks, h.directory]
  · intro e u
    rw [FileTree.get?_unset, hlines, h.table]
    by_cases he : e = d ∧ u = t
    · rw [if_pos he, if_pos (tablePath_inj.2 he)]
      rfl
    · rw [if_neg he, if_neg (mt tablePath_inj.1 he)]
  · intro e marks hnone hm
    rw [FileTree.get?_unset, if_neg (marksPath_ne_tablePath e d t)] at hnone
    exact h.unmarked e marks hnone (hmarks e ▸ hm)
  · intro e entry hentry
    rw [FileTree.get?_unset, if_neg (marksPath_ne_tablePath e d t)] at hentry
    rw [hmarks]
    exact h.marked e entry hentry
  · intro path entry hentry
    rw [FileTree.get?_unset] at hentry
    split at hentry
    · cases hentry
    · exact h.nothing path entry hentry

theorem setMarks (h : Image tree m) {content : List UInt8} {marks : IdMarks}
    (hd : (m.marks? d).isSome = true) (hdecode : IdMarks.decode content = .ok marks)
    (hmarks : ∀ e, m'.marks? e = if e = d then some marks else m.marks? e)
    (hlines : ∀ e u, m'.lines? e u = m.lines? e u) :
    Image (tree.set (marksPath d) (.file content)) m' := by
  constructor
  · intro e
    rw [FileTree.get?_set, if_neg (Ne.symm (marksPath_ne_directory d e)), hmarks]
    by_cases he : e = d
    · rw [if_pos he, he, h.get?_directory hd]
      rfl
    · rw [if_neg he, h.directory]
  · intro e u
    rw [FileTree.get?_set, if_neg (Ne.symm (marksPath_ne_tablePath d e u)), hlines, h.table]
  · intro e marks' hnone hm
    rw [FileTree.get?_set] at hnone
    split at hnone
    · cases hnone
    · next hpath =>
      rw [hmarks, if_neg (mt marksPath_inj.2 hpath)] at hm
      exact h.unmarked e marks' hnone hm
  · intro e entry hentry
    rw [FileTree.get?_set] at hentry
    rw [hmarks]
    split at hentry
    · next hpath =>
      rw [if_pos (marksPath_inj.1 hpath)]
      exact ⟨content, marks, (Option.some.inj hentry).symm, rfl, hdecode⟩
    · next hpath =>
      rw [if_neg (mt marksPath_inj.2 hpath)]
      exact h.marked e entry hentry
  · intro path entry hentry
    rw [FileTree.get?_set] at hentry
    split at hentry
    · next hpath => exact .inr (.inr ⟨d, hpath⟩)
    · exact h.nothing path entry hentry

/-- Without its file, the id marks of a database count as empty. -/
theorem unsetMarks (h : Image tree m) (hd : (m.marks? d).isSome = true)
    (hmarks : ∀ e, m'.marks? e = if e = d then some ∅ else m.marks? e)
    (hlines : ∀ e u, m'.lines? e u = m.lines? e u) : Image (tree.unset (marksPath d)) m' := by
  constructor
  · intro e
    rw [FileTree.get?_unset, if_neg (Ne.symm (marksPath_ne_directory d e)), hmarks]
    by_cases he : e = d
    · rw [if_pos he, he, h.get?_directory hd]
      rfl
    · rw [if_neg he, h.directory]
  · intro e u
    rw [FileTree.get?_unset, if_neg (Ne.symm (marksPath_ne_tablePath d e u)), hlines, h.table]
  · intro e marks' hnone hm
    rw [hmarks] at hm
    split at hm
    · exact (Option.some.inj hm).symm
    · next he =>
      rw [FileTree.get?_unset, if_neg (mt marksPath_inj.1 he)] at hnone
      exact h.unmarked e marks' hnone hm
  · intro e entry hentry
    rw [FileTree.get?_unset] at hentry
    split at hentry
    · cases hentry
    · next hpath =>
      rw [hmarks, if_neg (mt marksPath_inj.2 hpath)]
      exact h.marked e entry hentry
  · intro path entry hentry
    rw [FileTree.get?_unset] at hentry
    split at hentry
    · cases hentry
    · exact h.nothing path entry hentry

end Image

section Changes
variable {tree : FileTree} {m m' : Memory} {d t : String}

theorem change_createDatabase (h : Image tree m) (hd : FitsDatabase d)
    (hm : m.changed (.createDatabase d) = .ok m') :
    ∃ tree', change (.createDatabase d) tree = .ok () tree' ∧ Image tree' m' := by
  obtain ⟨hnew, hmarks, hlines⟩ := Memory.of_createDatabase hm
  have hfree : tree.find [d] = .error .notFound := by
    rw [find_directory hd, h.directory, hnew]
    rfl
  refine ⟨_, step_eq_ok_iff.2 ?_, h.setDirectory hnew hmarks hlines⟩
  exact FileTree.create_eq_ok_iff.2 ⟨tree.find_root, hfree, rfl⟩

theorem change_createTable (h : Image tree m) (hd : FitsDatabase d) (ht : FitsTable t)
    {lines : List String} (hm : m.changed (.createTable d t lines) = .ok m') :
    ∃ tree', change (.createTable d t lines) tree = .ok () tree' ∧ Image tree' m' := by
  obtain ⟨hold, hnew, hmarks, hlines⟩ := Memory.of_createTable hm
  have hparent : tree.find [d] = .ok .dir := h.find_database hd hold
  have hfree : tree.find (tablePath d t) = .error .notFound := by
    rw [h.find_table hd ht, hnew]
  refine ⟨_, step_eq_ok_iff.2 ?_, h.setTable hmarks hlines⟩
  exact FileTree.create_eq_ok_iff.2 ⟨hparent, hfree, rfl⟩

theorem change_writeTable (h : Image tree m) (hd : FitsDatabase d) (ht : FitsTable t)
    {lines : List String} (hm : m.changed (.writeTable d t lines) = .ok m') :
    ∃ tree', change (.writeTable d t lines) tree = .ok () tree' ∧ Image tree' m' := by
  obtain ⟨hold, hmarks, hlines⟩ := Memory.of_writeTable hm
  obtain ⟨old, hl⟩ := Option.isSome_iff_exists.1 hold
  have hparent : tree.find [d] = .ok .dir := h.find_database hd (Memory.marks?_of_lines? hold)
  have hfile : tree.find (tablePath d t) = .ok (.file (writeLines old)) := by
    rw [h.find_table hd ht, hl]
  have hpresent : tree.isFile (tablePath d t) = true := by
    rw [h.isFile_table hd ht, hold]
  refine ⟨_, ?_, h.setTable hmarks hlines⟩
  rw [change_writeTable_apply, if_pos hpresent]
  exact step_eq_ok_iff.2 (FileTree.replace_eq_ok_iff.2 ⟨hparent, .inl ⟨_, hfile⟩, rfl⟩)

theorem change_deleteTable (h : Image tree m) (hd : FitsDatabase d) (ht : FitsTable t)
    (hm : m.changed (.deleteTable d t) = .ok m') :
    ∃ tree', change (.deleteTable d t) tree = .ok () tree' ∧ Image tree' m' := by
  obtain ⟨hold, hmarks, hlines⟩ := Memory.of_deleteTable hm
  obtain ⟨old, hl⟩ := Option.isSome_iff_exists.1 hold
  have hfile : tree.find (tablePath d t) = .ok (.file (writeLines old)) := by
    rw [h.find_table hd ht, hl]
  refine ⟨_, step_eq_ok_iff.2 ?_, h.unsetTable hmarks hlines⟩
  exact FileTree.removeFile_eq_ok_iff.2 ⟨⟨_, hfile⟩, rfl⟩

theorem change_saveIdMarks (h : Image tree m) (hd : FitsDatabase d) {marks : IdMarks}
    (hdecode : IdMarks.decode marks.encode = .ok marks)
    (hm : m.changed (.saveIdMarks d marks) = .ok m') :
    ∃ tree', change (.saveIdMarks d marks) tree = .ok () tree' ∧ Image tree' m' := by
  obtain ⟨hold, hmarks, hlines⟩ := Memory.of_saveIdMarks hm
  have hparent : tree.find [d] = .ok .dir := h.find_database hd hold
  have hplace : (∃ old, tree.find (marksPath d) = .ok (.file old)) ∨
      tree.find (marksPath d) = .error .notFound := by
    rw [h.find_marks hd hold]
    cases he : tree.entries.get? (marksPath d) with
    | none => exact .inr rfl
    | some entry =>
      obtain ⟨content, -, rfl, -⟩ := h.marked d entry he
      exact .inl ⟨content, rfl⟩
  refine ⟨_, step_eq_ok_iff.2 ?_, h.setMarks hold hdecode hmarks hlines⟩
  exact FileTree.replace_eq_ok_iff.2 ⟨hparent, hplace, rfl⟩

theorem Image.removeDir_ok (h : Image tree m) (hd : FitsDatabase d)
    (hold : (m.marks? d).isSome = true) (hnone : ∀ t, m.lines? d t = none)
    (hunmarked : tree.entries.get? (marksPath d) = none) :
    tree.removeDir [d] = .ok (tree.unset [d]) := by
  refine FileTree.removeDir_ok (h.find_database hd hold) ?_
  intro path hpath hparent
  rw [SortedMap.mem_keys_iff] at hpath
  obtain ⟨entry, hentry⟩ := Option.isSome_iff_exists.1 hpath
  rcases h.nothing path entry hentry with ⟨e, rfl⟩ | ⟨e, u, rfl⟩ | ⟨e, rfl⟩
  · cases hparent
  · obtain rfl : e = d := (List.cons.inj hparent).1
    rw [h.table, hnone] at hentry
    cases hentry
  · obtain rfl : e = d := (List.cons.inj hparent).1
    rw [hunmarked] at hentry
    cases hentry

theorem change_deleteDatabase (h : Image tree m) (hd : FitsDatabase d)
    (hm : m.changed (.deleteDatabase d) = .ok m') :
    ∃ tree', change (.deleteDatabase d) tree = .ok () tree' ∧ Image tree' m' := by
  obtain ⟨hold, hnone, hmarks, hlines⟩ := Memory.of_deleteDatabase hm
  have hfind := h.find_marks hd hold
  cases he : tree.entries.get? (marksPath d) with
  | none =>
    rw [he] at hfind
    refine ⟨tree.unset [d], ?_, h.unsetDirectory he hmarks hlines⟩
    rw [change_deleteDatabase_apply, hfind]
    exact step_eq_ok_iff.2 (h.removeDir_ok hd hold hnone he)
  | some entry =>
    obtain ⟨content, marks, rfl, -⟩ := h.marked d entry he
    rw [he] at hfind
    obtain ⟨m₁, hm₁⟩ := Memory.exists_changed (c := .saveIdMarks d ∅) hold
    obtain ⟨-, hmarks₁, hlines₁⟩ := Memory.of_saveIdMarks hm₁
    have h₁ : Image (tree.unset (marksPath d)) m₁ := h.unsetMarks hold hmarks₁ hlines₁
    have hunmarked : (tree.unset (marksPath d)).entries.get? (marksPath d) = none := by
      rw [FileTree.get?_unset, if_pos rfl]
    have hold₁ : (m₁.marks? d).isSome = true := by
      rw [hmarks₁, if_pos rfl]
      rfl
    have hremove := FileTree.removeFile_eq_ok_iff.2 ⟨⟨content, hfind⟩, rfl⟩
    have hremove₁ := h₁.removeDir_ok hd hold₁ (fun t => (hlines₁ d t).trans (hnone t)) hunmarked
    refine ⟨(tree.unset (marksPath d)).unset [d], ?_, h₁.unsetDirectory hunmarked ?_ ?_⟩
    · have hthere : (tree.find (marksPath d)).isOk = true := by
        rw [hfind]
        rfl
      rw [change_deleteDatabase_apply, if_pos hthere, bind_apply, step_eq_ok_iff.2 hremove]
      exact step_eq_ok_iff.2 hremove₁
    · intro e
      rw [hmarks, hmarks₁]
      split <;> rfl
    · intro e u
      rw [hlines, hlines₁]

end Changes

section Fits

/-- Marks that a file can hold: the tables have names that fit, and eight bytes can count them. -/
structure FitsMarks (marks : IdMarks) : Prop where
  names : marks.Names FitsTable
  count : marks.entries.length < 2 ^ 64

def FitsChange : Change → Prop
  | .createDatabase d => FitsDatabase d
  | .createTable _ t _ => FitsTable t
  | .saveIdMarks _ marks => FitsMarks marks
  | .deleteDatabase _ | .writeTable _ _ _ | .deleteTable _ _ => True

theorem FitsMarks.decode_encode {marks : IdMarks} (h : FitsMarks marks) :
    IdMarks.decode marks.encode = .ok marks := by
  have hname : ∀ e ∈ marks.entries, (Text.Utf8.encode e.1).length < 2 ^ 64 := by
    intro e he
    have := (h.names e.1 e.2 (SortedMap.find_eq_some_of_mem marks.sorted he)).2
    omega
  have hdecode := IdMarks.decode_encode_append h.count hname []
  rwa [List.append_nil] at hdecode

/-- What a memory allows is done to its files. -/
theorem Image.change_ok {tree : FileTree} {m m' : Memory} {c : Change} (h : Image tree m)
    (names : m.Names FitsDatabase FitsTable) (hc : FitsChange c) (hm : m.changed c = .ok m') :
    ∃ tree', change c tree = .ok () tree' ∧ Image tree' m' := by
  have hdatabase : ∀ d, (m.marks? d).isSome = true → FitsDatabase d := by
    intro d hd
    obtain ⟨marks, hmarks⟩ := Option.isSome_iff_exists.1 hd
    exact names.databases d marks hmarks
  have htable : ∀ d t, (m.lines? d t).isSome = true → FitsDatabase d ∧ FitsTable t := by
    intro d t ht
    obtain ⟨lines, hlines⟩ := Option.isSome_iff_exists.1 ht
    exact ⟨hdatabase d (Memory.marks?_of_lines? ht), names.tables d t lines hlines⟩
  cases c with
  | createDatabase d => exact change_createDatabase h hc hm
  | deleteDatabase d =>
    exact change_deleteDatabase h (hdatabase d (Memory.of_deleteDatabase hm).1) hm
  | createTable d t lines =>
    exact change_createTable h (hdatabase d (Memory.of_createTable hm).1) hc hm
  | writeTable d t lines =>
    obtain ⟨hd, ht⟩ := htable d t (Memory.of_writeTable hm).1
    exact change_writeTable h hd ht hm
  | deleteTable d t =>
    obtain ⟨hd, ht⟩ := htable d t (Memory.of_deleteTable hm).1
    exact change_deleteTable h hd ht hm
  | saveIdMarks d marks =>
    exact change_saveIdMarks h (hdatabase d (Memory.of_saveIdMarks hm).1)
      (FitsMarks.decode_encode hc) hm

end Fits

end Files

end Tabular
