import Mathlib.Data.List.Sort
import Tabular.Proofs.Storage.Finding
import Tabular.Proofs.Storage.LinesCodec
import Tabular.Proofs.Storage.MarksCodec
import Tabular.Proofs.Storage.View

/-! The files of a memory: what they are, and that each storage operation over them does what it
does to the memory. -/
namespace Tabular

def FitsDatabase (d : String) : Prop := (Text.Utf8.encode d).length ≤ 255

def FitsTable (t : String) : Prop := t ≠ "" ∧ (Text.Utf8.encode t).length ≤ 251

namespace Files

/-- A tree has a directory for each database of a memory, in it a file for each table with its
lines, a file with the id marks unless there are none, and nothing else. -/
structure Image (tree : FileTree) (m : Memory) : Prop where
  directory : ∀ d, tree.entries.get? [d] = (m.marks? d).map fun _ => .dir
  table : ∀ d t, tree.entries.get? (tablePath d t) = (m.lines? d t).map fun lines =>
    .file (writeLines lines)
  unmarked : ∀ d marks, tree.entries.get? (marksPath d) = none → m.marks? d = some marks → marks = ∅
  marked : ∀ d entry, tree.entries.get? (marksPath d) = some entry →
    ∃ content marks, entry = .file content ∧ m.marks? d = some marks ∧
      IdMarks.decode content = .ok marks
  nothing : ∀ path entry, tree.entries.get? path = some entry →
    (∃ d, path = [d]) ∨ (∃ d t, path = tablePath d t) ∨ ∃ d, path = marksPath d

theorem image_empty : Image {} {} := by
  constructor
  · intro d
    rfl
  · intro d t
    rfl
  · intro d marks _ h
    cases h
  · intro d entry h
    cases h
  · intro path entry h
    cases h

section Paths

theorem toList_extension : extension.toList = ['.', 't', 'a', 'b'] := by decide

theorem tablePath_inj {d d' t t' : String} : tablePath d t = tablePath d' t' ↔ d = d' ∧ t = t' := by
  constructor
  · intro h
    have hd : d = d' := (List.cons.inj h).1
    have hfile : t ++ extension = t' ++ extension := (List.cons.inj (List.cons.inj h).2).1
    have hchars := congrArg String.toList hfile
    rw [String.toList_append, String.toList_append] at hchars
    exact ⟨hd, String.toList_injective (List.append_cancel_right hchars)⟩
  · rintro ⟨rfl, rfl⟩
    rfl

theorem marksPath_inj {d d' : String} : marksPath d = marksPath d' ↔ d = d' := by
  constructor
  · intro h
    exact (List.cons.inj h).1
  · rintro rfl
    rfl

theorem marksPath_ne_tablePath (d d' t : String) : marksPath d ≠ tablePath d' t := by
  intro h
  have hfile : ".ids" = t ++ extension := (List.cons.inj (List.cons.inj h).2).1
  have hlast := congrArg (fun s => s.toList.getLast?) hfile
  rw [String.toList_append, toList_extension, List.getLast?_append] at hlast
  rw [show ".ids".toList = ['.', 'i', 'd', 's'] by decide] at hlast
  cases hlast

theorem tablePath_ne_directory (d d' t : String) : tablePath d t ≠ [d'] := by
  intro h
  cases (List.cons.inj h).2

theorem marksPath_ne_directory (d d' : String) : marksPath d ≠ [d'] := by
  intro h
  cases (List.cons.inj h).2

theorem length_encode_append (s s' : String) :
    (Text.Utf8.encode (s ++ s')).length =
      (Text.Utf8.encode s).length + (Text.Utf8.encode s').length := by
  rw [Text.Utf8.encode, String.toList_append, List.flatMap_append, List.length_append]
  rfl

theorem length_file_le {t : String} (h : FitsTable t) :
    (Text.Utf8.encode (t ++ extension)).length ≤ 255 := by
  have hextension : (Text.Utf8.encode extension).length = 4 := by decide
  have := h.2
  rw [length_encode_append, hextension]
  omega

theorem tableOf?_eq_some {file t : String} :
    tableOf? file = some t ↔ file = t ++ extension ∧ t ≠ "" := by
  unfold tableOf?
  constructor
  · intro h
    dsimp only at h
    split at h
    · next hstem =>
      obtain ⟨hne, happend⟩ := Bool.and_eq_true_iff.1 hstem
      have ht := Option.some.inj h
      have hfile := eq_of_beq happend
      subst ht
      refine ⟨String.toList_injective ?_, ?_⟩
      · rw [String.toList_append, String.toList_ofList]
        exact hfile.symm
      · intro hempty
        have hnil := congrArg String.toList hempty
        rw [String.toList_ofList] at hnil
        rw [hnil] at hne
        cases hne
    · cases h
  · rintro ⟨rfl, ht⟩
    have htake : (t ++ extension).toList.take
        ((t ++ extension).toList.length - extension.length) = t.toList := by
      rw [String.toList_append, List.length_append, toList_extension]
      exact List.take_left
    have hne : t.toList.isEmpty = false := by
      rw [List.isEmpty_eq_false_iff]
      intro hnil
      exact ht (String.toList_injective hnil)
    dsimp only
    rw [htake, hne, String.toList_append, String.ofList_toList]
    simp

/-- The table whose file stands at a path in a directory. -/
def tableAt? (d : String) (path : Path) : Option String :=
  (if path.dropLast = [d] then path.getLast? else none).bind tableOf?

theorem tableAt?_eq_some {d t : String} {path : Path} :
    tableAt? d path = some t ↔ path = tablePath d t ∧ t ≠ "" := by
  unfold tableAt?
  constructor
  · intro h
    obtain ⟨file, hlast, hfile⟩ := Option.bind_eq_some_iff.1 h
    obtain ⟨rfl, ht⟩ := tableOf?_eq_some.1 hfile
    split at hlast
    · next hdrop =>
      have hpath := List.dropLast_append_getLast? _ hlast
      rw [hdrop] at hpath
      exact ⟨hpath.symm, ht⟩
    · cases hlast
  · rintro ⟨rfl, ht⟩
    have hdrop : (tablePath d t).dropLast = [d] := rfl
    rw [if_pos hdrop]
    exact tableOf?_eq_some.2 ⟨rfl, ht⟩

end Paths

theorem mergeSort_eq_of_mem_iff {l l' : List String} (hl : l.Nodup) (hl' : l'.Pairwise (· < ·))
    (h : ∀ t, t ∈ l ↔ t ∈ l') : l.mergeSort (· ≤ ·) = l' := by
  have hne : ∀ a b : String, a < b → a ≠ b := by
    rintro a b hlt rfl
    exact Std.lt_irrefl hlt
  have hperm : (l.mergeSort (· ≤ ·)).Perm l' :=
    (List.mergeSort_perm l _).trans ((List.perm_ext_iff_of_nodup hl (hl'.imp (hne _ _))).2 h)
  have hsorted : (l.mergeSort (· ≤ ·)).Pairwise (· ≤ ·) := by
    have hsort := @List.pairwise_mergeSort String (fun a b => decide (a ≤ b))
      (fun a b c hab hbc =>
        decide_eq_true (Std.le_trans (of_decide_eq_true hab) (of_decide_eq_true hbc)))
      (fun a b => by simpa using Std.le_total) l
    exact hsort.imp of_decide_eq_true
  have hsorted' : l'.Pairwise (· ≤ ·) := hl'.imp Std.le_of_lt
  exact hperm.eq_of_pairwise (fun a b _ _ hab hba => Std.le_antisymm hab hba) hsorted hsorted'

section Finding
variable {tree : FileTree} {d file : String}

theorem find_directory (h : FitsDatabase d) :
    tree.find [d] = match tree.entries.get? [d] with
      | some entry => .ok entry
      | none => .error .notFound :=
  (FileTree.find_of_dir tree.find_root d).trans (if_neg (Nat.not_lt.2 h))

theorem find_file (h : FitsDatabase d) (hf : (Text.Utf8.encode file).length ≤ 255)
    (hd : tree.entries.get? [d] = some .dir) :
    tree.find [d, file] = match tree.entries.get? [d, file] with
      | some entry => .ok entry
      | none => .error .notFound := by
  have hdir : tree.find [d] = .ok .dir := by rw [find_directory h, hd]
  exact (FileTree.find_of_dir hdir file).trans (if_neg (Nat.not_lt.2 hf))

theorem find_file_of_none (h : FitsDatabase d) (hd : tree.entries.get? [d] = none) :
    tree.find [d, file] = .error .notFound := by
  have hdir : tree.find [d] = .error .notFound := by rw [find_directory h, hd]
  have hfile := tree.find_concat [d] file
  rw [hdir] at hfile
  exact hfile

end Finding

/-- The tables of a directory are those whose files stand in it. -/
theorem ask_listTables_of_find {tree : FileTree} {d : String} (h : tree.find [d] = .ok .dir) :
    ask (.listTables d) tree =
      .ok ((tree.entries.keys.filterMap (tableAt? d)).mergeSort (· ≤ ·)) := by
  rw [ask, FileTree.list_eq, h]
  change Except.ok ((List.filterMap _ (List.filterMap _ _)).mergeSort _) = _
  rw [List.filterMap_filterMap]
  rfl

namespace Image
variable {tree : FileTree} {m : Memory} {d t : String}

theorem get?_directory (h : Image tree m) (hd : (m.marks? d).isSome = true) :
    tree.entries.get? [d] = some .dir := by
  obtain ⟨marks, hm⟩ := Option.isSome_iff_exists.1 hd
  rw [h.directory, hm]
  rfl

theorem find_database (h : Image tree m) (hd : FitsDatabase d) (hm : (m.marks? d).isSome = true) :
    tree.find [d] = .ok .dir := by
  rw [find_directory hd, h.get?_directory hm]

theorem isDir_eq (h : Image tree m) (hd : FitsDatabase d) :
    tree.isDir [d] = (m.marks? d).isSome := by
  rw [FileTree.isDir, find_directory hd, h.directory]
  cases m.marks? d <;> rfl

/-- What stands where the file of a table would be. -/
theorem find_table (h : Image tree m) (hd : FitsDatabase d) (ht : FitsTable t) :
    tree.find (tablePath d t) = match m.lines? d t with
      | some lines => .ok (.file (writeLines lines))
      | none => .error .notFound := by
  cases hm : m.marks? d with
  | none =>
    have hnone : m.lines? d t = none := by
      cases hl : m.lines? d t with
      | none => rfl
      | some lines =>
        have := Memory.marks?_of_lines? (Option.isSome_of_eq_some hl)
        rw [hm] at this
        cases this
    have hdir : tree.entries.get? [d] = none := by rw [h.directory, hm]; rfl
    rw [tablePath, find_file_of_none hd hdir, hnone]
  | some marks =>
    have hdir := h.get?_directory (Option.isSome_of_eq_some hm)
    have htable := h.table d t
    rw [tablePath] at htable ⊢
    rw [find_file hd (length_file_le ht) hdir, htable]
    cases m.lines? d t <;> rfl

theorem isFile_table (h : Image tree m) (hd : FitsDatabase d) (ht : FitsTable t) :
    tree.isFile (tablePath d t) = (m.lines? d t).isSome := by
  rw [FileTree.isFile, h.find_table hd ht]
  cases m.lines? d t <;> rfl

/-- What stands where the file of the id marks would be. -/
theorem find_marks (h : Image tree m) (hd : FitsDatabase d) (hm : (m.marks? d).isSome = true) :
    tree.find (marksPath d) = match tree.entries.get? (marksPath d) with
      | some entry => .ok entry
      | none => .error .notFound := by
  have hfile : (Text.Utf8.encode ".ids").length ≤ 255 := by decide
  exact find_file hd hfile (h.get?_directory hm)

theorem ask_loadIdMarks (h : Image tree m) (hd : FitsDatabase d) {marks : IdMarks}
    (hm : m.marks? d = some marks) : Files.ask (.loadIdMarks d) tree = .ok marks := by
  have hfind := h.find_marks hd (Option.isSome_of_eq_some hm)
  cases he : tree.entries.get? (marksPath d) with
  | none =>
    have hempty := h.unmarked d marks he hm
    rw [he] at hfind
    rw [Files.ask, FileTree.isFile, hfind, hempty]
    rfl
  | some entry =>
    obtain ⟨content, marks', rfl, hm', hdecode⟩ := h.marked d entry he
    obtain rfl : marks = marks' := Option.some.inj (hm.symm.trans hm')
    rw [he] at hfind
    rw [ask_loadIdMarks_of_find hfind, hdecode]
    rfl

theorem ask_readTable (h : Image tree m) (hd : FitsDatabase d) (ht : FitsTable t)
    (hlines : ∀ lines, m.lines? d t = some lines → ∀ l ∈ lines, IsLine l) :
    Files.ask (.readTable d t) tree = m.ask (.readTable d t) := by
  rw [Memory.ask_readTable]
  have hfind := h.find_table hd ht
  cases hl : m.lines? d t with
  | none =>
    rw [hl] at hfind
    rw [Files.ask, FileTree.isFile, hfind]
    rfl
  | some lines =>
    rw [hl] at hfind
    rw [ask_readTable_of_find hfind, readLines_writeLines (hlines lines hl)]
    rfl

theorem ask_listTables (h : Image tree m) (hd : FitsDatabase d) (hm : (m.marks? d).isSome = true)
    (hnames : ∀ t lines, m.lines? d t = some lines → t ≠ "") :
    Files.ask (.listTables d) tree = m.ask (.listTables d) := by
  obtain ⟨marks, hmarks⟩ := Option.isSome_iff_exists.1 hm
  obtain ⟨tables, htables⟩ := Memory.exists_listTables hmarks
  have hnodup : (tree.entries.keys.filterMap (tableAt? d)).Nodup := by
    apply tree.entries.nodup_keys.filterMap
    intro path path' t ht ht'
    rw [(tableAt?_eq_some.1 ht).1, (tableAt?_eq_some.1 ht').1]
  have hmem : ∀ t, t ∈ tree.entries.keys.filterMap (tableAt? d) ↔ t ∈ tables := by
    intro t
    rw [List.mem_filterMap, Memory.mem_of_ask_listTables htables]
    constructor
    · rintro ⟨path, hpath, ht⟩
      obtain ⟨rfl, -⟩ := tableAt?_eq_some.1 ht
      rw [SortedMap.mem_keys_iff, SortedMap.contains, h.table, Option.isSome_map] at hpath
      exact hpath
    · intro hl
      obtain ⟨lines, hlines⟩ := Option.isSome_iff_exists.1 hl
      refine ⟨tablePath d t, ?_, tableAt?_eq_some.2 ⟨rfl, hnames t lines hlines⟩⟩
      rw [SortedMap.mem_keys_iff, SortedMap.contains, h.table, Option.isSome_map]
      exact hl
  rw [ask_listTables_of_find (h.find_database hd hm), htables, mergeSort_eq_of_mem_iff hnodup
    (Memory.pairwise_of_ask_listTables htables) hmem]

end Image

end Files

end Tabular
