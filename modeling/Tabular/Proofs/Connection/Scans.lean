import Tabular.Proofs.Connection.Responses

/-! The rows of a scan in the text of its response: its lines, split at tabs, give back the columns
and the rows. -/
namespace Tabular
open Connection

def Statement.Shows : Statement → Prop
  | select _ _ _ | join _ _ _ _ => True
  | _ => False

/-- The cells in the lines of a response, after the one that says that the statement succeeded. -/
def Connection.readScan? (response : String) : Option (List (List String)) :=
  match linesOf response with
  | [] => none
  | first :: lines =>
    if first = "[OK]".toList then some (lines.map fun l => splitCells (String.ofList l)) else none

/-- A scan with one column at least, and rows as wide as its columns. -/
def Answer.Even : Answer → Prop
  | scan columns rows => columns ≠ [] ∧ ∀ row ∈ rows, row.length = columns.length
  | _ => False

theorem readScan?_render {columns : List String} {rows : List (List String)}
    (hne : ∀ line ∈ columns :: rows, line ≠ [])
    (hcells : ∀ line ∈ columns :: rows, ∀ c ∈ line, IsCell c) :
    readScan? (Answer.scan columns rows).render = some (columns :: rows) := by
  have hline : ∀ line ∈ columns :: rows, splitCells (String.ofList (joinCells line).toList) = line := by
    intro line hm
    rw [String.ofList_toList]
    exact splitCells_joinCells (hne line hm) fun c hc => (hcells line hm c hc).tab
  rw [readScan?, linesOf_render_scan hcells, List.map_cons]
  dsimp only
  rw [if_pos rfl, List.map_map, List.map_map]
  exact congrArg some ((List.map_congr_left hline).trans (List.map_id _))

section Width
variable {t : Table}

/-- Columns at some indexes, and rows at the same indexes. -/
theorem Table.even_scan {indexes : List Nat} (h : indexes ≠ []) (condition : Option Condition) :
    (t.scan indexes condition).Even := by
  refine ⟨fun hnil => h ?_, List.forall_mem_map.2 fun row _ => ?_⟩
  · exact List.map_eq_nil_iff.1 hnil
  · rw [length_cellsAt, length_cellsAt]

theorem Table.even_join (l r : Table) (left right : String) (leftKey rightKey : Nat) :
    (l.join r left right leftKey rightKey).Even := by
  refine ⟨fun hnil => ?_, fun row hm => ?_⟩
  · cases hnil
  · obtain ⟨leftRow, -, hm⟩ := List.mem_flatMap.1 hm
    obtain ⟨rightRow, -, rfl⟩ := List.mem_map.1 hm
    simp only [List.length_append, List.length_map, length_cellsAt]

/-- A projection that a statement writes shows a column. -/
theorem Table.projected_ne_nil {table text : String} {shown : Projection}
    {condition : Option Condition} {indexes : List Nat} (hh : t.header ≠ [])
    (hst : Statement.ofText text = .ok (.select table shown condition))
    (hi : t.projected table shown = .ok indexes) : indexes ≠ [] := by
  cases shown with
  | all =>
    cases hi
    simpa [List.range_eq_nil] using hh
  | columns names =>
    obtain ⟨c, rest, rfl⟩ :=
      List.exists_cons_of_ne_nil (Statement.columns_ne_nil_of_ofText hst)
    obtain ⟨i, hfirst, -⟩ := exists_getElem?_of_mapM hi (List.getElem?_cons_zero ..)
    rintro rfl
    cases hfirst

end Width

/-- What a statement that shows rows answers, over any storage. -/
theorem Statement.Effect.even {v w : Session Memory} {st : Statement} {a : Answer} {text : String}
    (h : st.Effect v (.ok a) w) (hshows : st.Shows) (hst : Statement.ofText text = .ok st) :
    a.Even := by
  generalize hr : Except.ok a = r at h
  cases h with
  | refused => cases hr
  | select ht hh hi =>
    cases hr
    exact Table.even_scan (Table.projected_ne_nil hh hst hi) _
  | join hl hr' hlh hrh hlk hrk =>
    cases hr
    exact Table.even_join ..
  | _ => exact hshows.elim

namespace Sharing

/-- Sessions that start from empty storage, whatever fails, answer a statement that shows rows with
columns and rows of their width, and the text of the response gives them back. -/
theorem readScan?_respond (contexts : Nat → Context) (faults : List InjectedFault)
    (actions : List (Nat × Action)) (k : Nat) {s : Session (Faulty Memory)}
    (hs : s = (acts ⟨contexts, { faults, base := {} }⟩ actions).session k) {text : String}
    {st : Statement} {a : Answer} (hst : Statement.ofText text = .ok st) (hshows : st.Shows)
    (h : s.answer text = .ok a) :
    ∃ columns rows, a = .scan columns rows ∧ columns ≠ [] ∧
      (∀ row ∈ rows, row.length = columns.length) ∧
      readScan? (s.respond text).1 = some (columns :: rows) := by
  let start : Sharing Memory := ⟨contexts, { faults, base := {} }⟩
  have hstored : s.shown.storage.WellStored := by
    rw [hs]
    exact wellStored_acts start Memory.wellStored_empty actions
  obtain ⟨st', hst', heffect⟩ := Session.effect_of_answer h
  cases hst.symm.trans hst'
  have heven := heffect.even hshows hst
  have hshown := heffect.shown hst hstored
  cases a with
  | scan columns rows =>
    obtain ⟨hcolumns, hrows⟩ := heven
    have hne : ∀ line ∈ columns :: rows, line ≠ [] := by
      refine List.forall_mem_cons.2 ⟨hcolumns, fun row hm hnil => hcolumns ?_⟩
      have hlength := hrows row hm
      rw [hnil] at hlength
      exact List.length_eq_zero_iff.1 hlength.symm
    refine ⟨columns, rows, rfl, hcolumns, hrows, ?_⟩
    rw [Session.fst_respond_of_answer h]
    exact readScan?_render hne hshown.1
  | _ => exact heven.elim

/-- Empty cells are read back, also where a cell is the whole row. -/
theorem readScan?_respond_empty_cells :
    readScan? "[OK]\na\n\nx" = some [["a"], [""], ["x"]] := by
  let actions : List (Nat × Action) :=
    [(0, .run "CREATE DATABASE d;"), (0, .run "USE d;"), (0, .run "CREATE TABLE t (a, b);"),
      (0, .run "INSERT INTO t VALUES ('', '');"), (0, .run "INSERT INTO t VALUES ('x', '');")]
  let s := (acts ⟨fun _ => {}, { base := ({} : Memory) }⟩ actions).session 0
  have hst : Statement.ofText "SELECT a FROM t;" = .ok (.select "t" (.columns ["a"]) none) := by
    decide +kernel
  have hanswer : s.answer "SELECT a FROM t;" = .ok (.scan ["a"] [[""], ["x"]]) := by
    decide +kernel
  have hresponse : (s.respond "SELECT a FROM t;").1 = "[OK]\na\n\nx" := by decide +kernel
  obtain ⟨columns, rows, hscan, -, -, hread⟩ :=
    readScan?_respond (fun _ => {}) [] actions 0 (s := s) rfl hst trivial hanswer
  cases hscan
  exact hresponse ▸ hread

end Sharing

end Tabular
