import Tabular.Proofs.Storage.ImageChanges

/-! Where files are touched: a question is answered from what stands at its paths, and a change
looks at nothing else and changes nothing elsewhere. -/
namespace Tabular

/-- The paths that a question is answered from. -/
def Query.paths {α : Type} : Query α → List Path
  | databaseExists d | listTables d => [[d]]
  | tableExists d t | readTable d t => [[d], Files.tablePath d t]
  | loadIdMarks d => [[d], Files.marksPath d]

/-- The paths that a change looks at, and at some of which it changes what stands there. -/
def Change.paths : Change → List Path
  | createDatabase d => [[d]]
  | createTable d t _ | writeTable d t _ | deleteTable d t => [[d], Files.tablePath d t]
  | deleteDatabase d | saveIdMarks d _ => [[d], Files.marksPath d]

namespace FileTree

/-- The same stands at some paths, and the same names are in the directories among them. -/
def SameAt (paths : List Path) (tree tree' : FileTree) : Prop :=
  ∀ path ∈ paths, tree.find path = tree'.find path ∧ tree.list path = tree'.list path

theorem eq_unset_of_removeDir {tree tree' : FileTree} {path : Path}
    (h : tree.removeDir path = .ok tree') : tree' = tree.unset path := by
  rw [removeDir] at h
  cases hlist : tree.list path with
  | error fault => rw [hlist] at h; cases h
  | ok names => rw [hlist] at h; cases names <;> cases h; rfl

theorem find_unset (tree : FileTree) (d file : String) :
    (tree.unset [d, file]).find [d] = tree.find [d] :=
  find_unset_of_not_prefix fun h => absurd h.length_le (by simp)

theorem list_unset (tree : FileTree) (d file : String) :
    (tree.unset [d, file]).list [d] = (tree.list [d]).map (·.filter (· ≠ file)) := by
  rw [list_eq, list_eq, find_unset]
  cases tree.find [d] with
  | error fault => rfl
  | ok entry =>
    cases entry with
    | file content => rfl
    | dir =>
      have hkeys : (tree.unset [d, file]).entries.keys =
          tree.entries.keys.filter (· ≠ [d, file]) := by
        rw [unset, SortedMap.keys, SortedMap.keys, List.filter_map]
        rfl
      refine congrArg Except.ok ?_
      dsimp only
      rw [hkeys, List.filterMap_filter, List.filter_filterMap]
      refine List.filterMap_congr fun path _ => ?_
      by_cases hparent : path.dropLast = [d]
      · rw [if_pos hparent]
        cases hlast : path.getLast? with
        | none => simp
        | some name =>
          have hpath := List.dropLast_append_getLast? _ hlast
          rw [hparent] at hpath
          subst hpath
          by_cases hname : name = file <;> simp [hname, Option.filter]
      · simp [hparent]

end FileTree

namespace Files
open FileTree
variable {tree tree' : FileTree}

/-- What is answered depends on nothing else. -/
theorem ask_congr {α : Type} (q : Query α) (h : SameAt q.paths tree tree') :
    ask q tree = ask q tree' := by
  have hfile {d file : String} (hfind : tree.find [d, file] = tree'.find [d, file]) :
      tree.isFile [d, file] = tree'.isFile [d, file] ∧ tree.read [d, file] = tree'.read [d, file] := by
    rw [FileTree.isFile, FileTree.isFile, FileTree.read, FileTree.read, hfind]
    exact ⟨rfl, rfl⟩
  cases q with
  | databaseExists d =>
    obtain ⟨hfind, -⟩ := h [d] (List.mem_singleton_self _)
    rw [ask, ask, FileTree.isDir, FileTree.isDir, hfind]
  | listTables d =>
    obtain ⟨-, hlist⟩ := h [d] (List.mem_singleton_self _)
    rw [ask, ask, hlist]
  | tableExists d t =>
    obtain ⟨hfind, -⟩ := h (tablePath d t) (by simp [Query.paths])
    rw [ask, ask, tablePath, (hfile hfind).1]
  | readTable d t =>
    obtain ⟨hfind, -⟩ := h (tablePath d t) (by simp [Query.paths])
    rw [ask, ask, tablePath, (hfile hfind).1, (hfile hfind).2]
  | loadIdMarks d =>
    obtain ⟨hfind, -⟩ := h (marksPath d) (by simp [Query.paths])
    rw [ask, ask, marksPath, (hfile hfind).1, (hfile hfind).2]

def verdict : EStateM.Result Error FileTree Unit → Except Error Unit
  | .ok _ _ => .ok ()
  | .error e _ => .error e

/-- The tree after a change, made or not. -/
def after : EStateM.Result Error FileTree Unit → FileTree
  | .ok _ tree | .error _ tree => tree

/-- A change looks at nothing but what is at some paths, and changes nothing elsewhere. -/
structure StaysAt (paths : List Path) (x : EStateM Error FileTree Unit) : Prop where
  verdict_eq : ∀ {tree tree' : FileTree}, SameAt paths tree tree' →
    verdict (x tree) = verdict (x tree')
  get?_eq : ∀ (tree : FileTree) (q : Path), q ∉ paths →
    (after (x tree)).entries.get? q = tree.entries.get? q

theorem StaysAt.mono {paths paths' : List Path} {x : EStateM Error FileTree Unit}
    (h : StaysAt paths x) (hpaths : ∀ q ∈ paths, q ∈ paths') : StaysAt paths' x where
  verdict_eq hsame := h.verdict_eq fun q hq => hsame q (hpaths q hq)
  get?_eq tree q hq := h.get?_eq tree q fun hmem => hq (hpaths q hmem)

theorem StaysAt.of_test {paths : List Path} (test : FileTree → Bool)
    {x y z : EStateM Error FileTree Unit}
    (htest : ∀ {tree tree' : FileTree}, SameAt paths tree tree' → test tree = test tree')
    (hz : ∀ tree, z tree = if test tree then x tree else y tree) (hx : StaysAt paths x)
    (hy : StaysAt paths y) : StaysAt paths z where
  verdict_eq {tree tree'} h := by
    rw [hz, hz, htest h]
    split
    · exact hx.verdict_eq h
    · exact hy.verdict_eq h
  get?_eq tree q hq := by
    rw [hz]
    split
    · exact hx.get?_eq tree q hq
    · exact hy.get?_eq tree q hq

theorem staysAt_throw (paths : List Path) (e : Error) : StaysAt paths (throw e) :=
  ⟨fun _ => rfl, fun _ _ _ => rfl⟩

/-- One change after another that looks at less, where the first leaves the same at the paths of the
second. -/
theorem StaysAt.bind {paths paths' : List Path} {x y : EStateM Error FileTree Unit}
    (hx : StaysAt paths x) (hy : StaysAt paths' y) (hpaths : ∀ q ∈ paths', q ∈ paths)
    (hsame : ∀ {tree tree' u u' : FileTree}, SameAt paths tree tree' → x tree = .ok () u →
      x tree' = .ok () u' → SameAt paths' u u') :
    StaysAt paths (x >>= fun _ => y) := by
  constructor
  · intro tree tree' h
    have hfirst := hx.verdict_eq h
    rw [bind_apply, bind_apply]
    cases hu : x tree <;> cases hu' : x tree' <;> rw [hu, hu'] at hfirst
    · exact hy.verdict_eq (hsame h hu hu')
    · cases hfirst
    · cases hfirst
    · exact hfirst
  · intro tree q hq
    have hfirst := hx.get?_eq tree q hq
    rw [bind_apply]
    cases hu : x tree with
    | ok _ u =>
      rw [hu] at hfirst
      exact (hy.get?_eq u q fun h => hq (hpaths q h)).trans hfirst
    | error e u => rw [hu] at hfirst; exact hfirst

/-- A step that is refused alike, and that sets or removes no more than the entry at one path. -/
theorem staysAt_step {paths : List Path} (path : Path) {f : FileTree → Except FileFault FileTree}
    (hpath : path ∈ paths)
    (hsame : ∀ {tree tree' : FileTree}, SameAt paths tree tree' →
      (f tree).map (fun _ => ()) = (f tree').map fun _ => ())
    (hf : ∀ {tree tree' : FileTree}, f tree = .ok tree' →
      (∃ entry, tree' = tree.set path entry) ∨ tree' = tree.unset path) :
    StaysAt paths (step f) where
  verdict_eq {tree tree'} h := by
    have hresult := hsame h
    rw [step_apply, step_apply]
    cases hu : f tree <;> cases hu' : f tree' <;> rw [hu, hu'] at hresult <;> cases hresult <;> rfl
  get?_eq tree q hq := by
    have hne : q ≠ path := by
      rintro rfl
      exact hq hpath
    rw [step_apply]
    cases hu : f tree with
    | error fault => rfl
    | ok tree' =>
      change tree'.entries.get? q = _
      rcases hf hu with ⟨entry, rfl⟩ | rfl
      · rw [get?_set, if_neg hne]
      · rw [get?_unset, if_neg hne]

section Changes
variable {d file : String}

theorem staysAt_createDir (d : String) : StaysAt [[d]] (step (·.create [d] .dir)) := by
  refine staysAt_step [d] (List.mem_singleton_self _) (fun {tree tree'} h => ?_)
    fun h => .inl ⟨_, (create_eq_ok_iff.1 h).2.2⟩
  have hfind := (h [d] (List.mem_singleton_self _)).1
  have hroot (tree : FileTree) : ∃ names, tree.list [] = .ok names := ⟨_, rfl⟩
  obtain ⟨names, hlist⟩ := hroot tree
  obtain ⟨names', hlist'⟩ := hroot tree'
  simp only [create, List.dropLast_singleton, hlist, hlist', hfind]
  cases tree'.find [d] with
  | ok _ => rfl
  | error fault => cases fault <;> rfl

theorem staysAt_createFile (d file : String) (entry : Entry) :
    StaysAt [[d], [d, file]] (step (·.create [d, file] entry)) := by
  refine staysAt_step [d, file] (by simp) (fun {tree tree'} h => ?_)
    fun h => .inl ⟨_, (create_eq_ok_iff.1 h).2.2⟩
  have hlist := (h [d] (by simp)).2
  have hfind := (h [d, file] (by simp)).1
  simp only [create, List.dropLast_cons_cons, List.dropLast_singleton, hlist, hfind]
  cases tree'.list [d] with
  | error fault => rfl
  | ok names =>
    cases tree'.find [d, file] with
    | ok _ => rfl
    | error fault => cases fault <;> rfl

theorem staysAt_replace (d file : String) (content : List UInt8) :
    StaysAt [[d], [d, file]] (step (·.replace [d, file] content)) := by
  refine staysAt_step [d, file] (by simp) (fun {tree tree'} h => ?_)
    fun h => .inl ⟨_, (replace_eq_ok_iff.1 h).2.2⟩
  have hlist := (h [d] (by simp)).2
  have hfind := (h [d, file] (by simp)).1
  simp only [replace, List.dropLast_cons_cons, List.dropLast_singleton, hlist, hfind]
  cases tree'.list [d] with
  | error fault => rfl
  | ok names =>
    cases tree'.find [d, file] with
    | ok old => cases old <;> rfl
    | error fault => cases fault <;> rfl

theorem staysAt_removeFile (d file : String) :
    StaysAt [[d], [d, file]] (step (·.removeFile [d, file])) := by
  refine staysAt_step [d, file] (by simp) (fun {tree tree'} h => ?_)
    fun h => .inr (removeFile_eq_ok_iff.1 h).2
  have hfind := (h [d, file] (by simp)).1
  simp only [removeFile, FileTree.read, hfind]
  cases tree'.find [d, file] with
  | ok old => cases old <;> rfl
  | error fault => rfl

theorem staysAt_removeDir (d : String) : StaysAt [[d]] (step (·.removeDir [d])) := by
  refine staysAt_step [d] (List.mem_singleton_self _) (fun {tree tree'} h => ?_)
    fun h => .inr (eq_unset_of_removeDir h)
  have hlist := (h [d] (List.mem_singleton_self _)).2
  simp only [removeDir, hlist]
  cases tree'.list [d] with
  | error fault => rfl
  | ok names => cases names <;> rfl

/-- The marks of a database and then its directory: without the marks, the directories hold the
same again. -/
theorem staysAt_removeDatabase (d : String) : StaysAt [[d], marksPath d]
    (step (·.removeFile (marksPath d)) >>= fun _ => step (·.removeDir [d])) := by
  refine (staysAt_removeFile d ".ids").bind (staysAt_removeDir d) (by simp) ?_
  intro tree tree' u u' h hu hu' path hpath
  obtain rfl := List.mem_singleton.1 hpath
  obtain ⟨hfind, hlist⟩ := h [d] (by simp)
  rw [(removeFile_eq_ok_iff.1 (step_eq_ok_iff.1 hu)).2,
    (removeFile_eq_ok_iff.1 (step_eq_ok_iff.1 hu')).2, find_unset, find_unset, list_unset, list_unset,
    hfind, hlist]
  exact ⟨rfl, rfl⟩

theorem staysAt_writeTable (d t : String) (lines : List String) :
    StaysAt [[d], tablePath d t] (change (.writeTable d t lines)) := by
  refine StaysAt.of_test (fun tree => tree.isFile (tablePath d t)) (fun h => ?_)
    (change_writeTable_apply d t lines) (staysAt_replace d _ (writeLines lines))
    (staysAt_throw _ (.schema (.noTable t)))
  rw [FileTree.isFile, FileTree.isFile, (h (tablePath d t) (by simp)).1]

theorem staysAt_deleteDatabase (d : String) :
    StaysAt [[d], marksPath d] (change (.deleteDatabase d)) := by
  refine StaysAt.of_test (fun tree => (tree.find (marksPath d)).isOk) (fun h => ?_)
    (change_deleteDatabase_apply d) (staysAt_removeDatabase d) ((staysAt_removeDir d).mono (by simp))
  rw [(h (marksPath d) (by simp)).1]

/-- A change stays at the paths of the names that it is handed. -/
theorem staysAt_change (c : Change) : StaysAt c.paths (change c) := by
  cases c with
  | createDatabase d => exact staysAt_createDir d
  | createTable d t lines => exact staysAt_createFile d _ _
  | deleteTable d t => exact staysAt_removeFile d _
  | saveIdMarks d marks => exact staysAt_replace d _ _
  | writeTable d t lines => exact staysAt_writeTable d t lines
  | deleteDatabase d => exact staysAt_deleteDatabase d

end Changes

end Files

end Tabular
