import Tabular.Main
import Tabular.Proofs.Storage.Paths
import Tabular.Proofs.Token.Names

/-! Plain names, the paths that are made of them, and the places of these paths, which lie below the
root, apart from each other. -/
namespace Tabular

/-- A star, or a word of lower-case letters, digits and underscores that writes no number. -/
def IsPlainName (n : String) : Prop :=
  n = "*" ∨ n ≠ "" ∧ (∀ c ∈ n.toList, (c.isLower || c.isDigit || c == '_') = true) ∧
    Decimal.isWritten n = false

instance : DecidablePred IsPlainName := fun n =>
  inferInstanceAs (Decidable (n = "*" ∨ n ≠ "" ∧
    (∀ c ∈ n.toList, (c.isLower || c.isDigit || c == '_') = true) ∧ Decimal.isWritten n = false))

/-- The names of databases and tables in statements are plain. -/
theorem IsName.isPlainName {s : String} (h : IsName s) : IsPlainName s := by
  rcases h with rfl | ⟨hkind, hlower⟩
  · exact .inl rfl
  · obtain ⟨-, -, -, hword, hdigits⟩ := ofText?_eq_identifier.1 hkind
    obtain ⟨hne, hchars⟩ := isIdentifier_iff.1 hword
    have hnonempty : s ≠ "" := by
      rintro rfl
      exact hne rfl
    have hlowered : s.toList.map Char.toLower = s.toList.map id := by
      rw [← Text.toList_lowerAscii, hlower, List.map_id]
    have hchar : ∀ c ∈ s.toList, (c.isLower || c.isDigit || c == '_') = true := by
      intro c hc
      have hfixed : c.toLower = c := List.map_inj_left.1 hlowered c hc
      exact forall_isNameChar
        (P := fun c => c.toLower = c → (c.isLower || c.isDigit || c == '_') = true)
        (by decide +kernel) (hchars c hc) hfixed
    exact .inr ⟨hnonempty, hchar, by rw [isWritten_of_isIdentifier hword, hdigits]⟩

/-- A path that is made of plain names: of a database, of the file of a table, or of id marks. -/
inductive IsPlainPath : Path → Prop where
  | database {d : String} (hd : IsPlainName d) : IsPlainPath [d]
  | table {d t : String} (hd : IsPlainName d) (ht : IsPlainName t) :
      IsPlainPath (Files.tablePath d t)
  | marks {d : String} (hd : IsPlainName d) : IsPlainPath (Files.marksPath d)

theorem Query.isPlainPath_of_mem_paths {α : Type} {q : Query α} (hq : q.Within IsPlainName)
    {path : Path} (h : path ∈ q.paths) : IsPlainPath path := by
  cases q with
  | databaseExists d | listTables d =>
    obtain rfl := List.mem_singleton.1 h
    exact .database hq
  | tableExists d t | readTable d t =>
    rcases List.mem_pair.1 h with rfl | rfl
    · exact .database hq.1
    · exact .table hq.1 hq.2
  | loadIdMarks d =>
    rcases List.mem_pair.1 h with rfl | rfl
    · exact .database hq
    · exact .marks hq

theorem Change.isPlainPath_of_mem_paths {c : Change} (hc : c.Within IsPlainName) {path : Path}
    (h : path ∈ c.paths) : IsPlainPath path := by
  cases c with
  | createDatabase d =>
    obtain rfl := List.mem_singleton.1 h
    exact .database hc
  | deleteDatabase d =>
    rcases List.mem_pair.1 h with rfl | rfl
    · exact .database hc
    · exact .marks hc
  | createTable d t lines | writeTable d t lines | deleteTable d t =>
    rcases List.mem_pair.1 h with rfl | rfl
    · exact .database hc.1
    · exact .table hc.1 hc.2
  | saveIdMarks d marks =>
    rcases List.mem_pair.1 h with rfl | rfl
    · exact .database hc.1
    · exact .marks hc.1

/-- Nothing stands in a tree at other paths than those of plain names. -/
def FileTree.Tidy (tree : FileTree) : Prop :=
  ∀ path entry, tree.entries.get? path = some entry → IsPlainPath path

namespace FileTree.Tidy
variable {tree : FileTree}

theorem empty : ({} : FileTree).Tidy := by
  intro path entry h
  cases h

/-- The tables that are listed have plain names. -/
theorem isPlainName_of_listed (h : tree.Tidy) {d : String} {tables : List String}
    (hask : Files.ask (.listTables d) tree = .ok tables) : ∀ t ∈ tables, IsPlainName t := by
  cases hfind : tree.find [d] with
  | error fault => rw [Files.ask, list, hfind] at hask; cases hask
  | ok entry =>
    cases entry with
    | file content => rw [Files.ask, list, hfind] at hask; cases hask
    | dir =>
      rw [Files.ask_listTables_of_find hfind] at hask
      cases hask
      intro t ht
      obtain ⟨path, hpath, htable⟩ := List.mem_filterMap.1 (List.mem_mergeSort.1 ht)
      obtain ⟨rfl, -⟩ := Files.tableAt?_eq_some.1 htable
      rw [SortedMap.mem_keys_iff, SortedMap.contains] at hpath
      obtain ⟨entry, hentry⟩ := Option.isSome_iff_exists.1 hpath
      have hplain := h _ entry hentry
      generalize hp : Files.tablePath d t = path at hplain
      cases hplain with
      | database hd => exact absurd hp (Files.tablePath_ne_directory _ _ _)
      | table hd ht => exact (Files.tablePath_inj.1 hp).2 ▸ ht
      | marks hd => exact absurd hp.symm (Files.marksPath_ne_tablePath _ _ _)

/-- A change with plain names, made or not, leaves nothing else. -/
theorem changed (h : tree.Tidy) {c : Change} (hc : c.Within IsPlainName) :
    (Files.after (Files.change c tree)).Tidy := by
  intro path entry hentry
  by_cases hpath : path ∈ c.paths
  · exact Change.isPlainPath_of_mem_paths hc hpath
  · rw [(Files.staysAt_change c).get?_eq tree path hpath] at hentry
    exact h path entry hentry

end FileTree.Tidy

/-- One name of a file or directory: it does not lead through a directory, stay or lead back. -/
def IsFileName (name : String) : Prop :=
  '/' ∉ name.toList ∧ name ≠ "" ∧ name ≠ "." ∧ name ≠ ".."

namespace IsPlainName
variable {n : String}

theorem ne_empty (h : IsPlainName n) : n ≠ "" := by
  rcases h with rfl | ⟨hne, -⟩
  · decide
  · exact hne

theorem not_mem {c : Char} (h : IsPlainName n)
    (hc : c ≠ '*' ∧ (c.isLower || c.isDigit || c == '_') = false) : c ∉ n.toList := by
  intro hmem
  rcases h with rfl | ⟨-, hchars, -⟩
  · exact hc.1 (List.mem_singleton.1 hmem)
  · rw [hchars c hmem] at hc
    cases hc.2

theorem isFileName (h : IsPlainName n) : IsFileName n := by
  have hdot : '.' ∉ n.toList := h.not_mem (by decide)
  refine ⟨h.not_mem (by decide), h.ne_empty, ?_, ?_⟩
  · rintro rfl
    exact hdot (by decide)
  · rintro rfl
    exact hdot (by decide)

theorem isFileName_table (h : IsPlainName n) : IsFileName (n ++ Files.extension) := by
  have hchars : (n ++ Files.extension).toList = n.toList ++ ['.', 't', 'a', 'b'] := by
    rw [String.toList_append, Files.toList_extension]
  have hlong {s : String} (hs : s.toList.length < 4) : n ++ Files.extension ≠ s := by
    rintro rfl
    rw [hchars, List.length_append] at hs
    exact absurd hs (by simp)
  refine ⟨?_, hlong (by decide), hlong (by decide), hlong (by decide)⟩
  rw [hchars, List.mem_append]
  exact not_or.2 ⟨h.not_mem (by decide), by decide⟩

end IsPlainName

theorem IsPlainPath.isFileName {path : Path} (h : IsPlainPath path) :
    ∀ name ∈ path, IsFileName name := by
  intro name hname
  cases h with
  | database hd =>
    obtain rfl := List.mem_singleton.1 hname
    exact hd.isFileName
  | table hd ht =>
    rcases List.mem_pair.1 hname with rfl | rfl
    · exact hd.isFileName
    · exact ht.isFileName_table
  | marks hd =>
    rcases List.mem_pair.1 hname with rfl | rfl
    · exact hd.isFileName
    · exact ⟨by decide, by decide, by decide, by decide⟩

namespace CommandLine
variable {dir : String}

/-- A place below a directory is found through the directory, and then through the names alone. -/
theorem splitOn_place (dir : String) {path : Path} (h : ∀ name ∈ path, IsFileName name) :
    (place dir path).toList.splitOn '/' = dir.toList.splitOn '/' ++ path.map String.toList := by
  induction path generalizing dir with
  | nil => rw [place, String.intercalate_singleton, List.map_nil, List.append_nil]
  | cons name rest ih =>
    obtain ⟨hname, hrest⟩ := List.forall_mem_cons.1 h
    have hstep : (place dir (name :: rest)).toList =
        dir.toList ++ '/' :: (place name rest).toList := by
      rw [place, place, String.intercalate_cons_cons, String.toList_append, String.toList_append,
        List.append_assoc]
      rfl
    rw [hstep, List.splitOn_append_cons_self, ih name hrest, List.splitOn_eq_singleton hname.1]
    rfl

/-- Different paths have different places. -/
theorem place_inj {path path' : Path} (h : ∀ name ∈ path, IsFileName name)
    (h' : ∀ name ∈ path', IsFileName name) (heq : place dir path = place dir path') :
    path = path' := by
  have hsplit := congrArg (fun s => s.toList.splitOn '/') heq
  rw [splitOn_place dir h, splitOn_place dir h'] at hsplit
  exact List.map_injective_iff.2 (fun _ _ h => String.toList_injective h) (List.append_cancel_left hsplit)

end CommandLine

end Tabular
