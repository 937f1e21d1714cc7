import Tabular.Proofs.Table.Changes

/-! The operations on lists and numbers that can go wrong, each with its check, and the operations
on tables that are written with them. On tables as they are loaded no check fails. -/
namespace Tabular

/-- What ends a program at once: a place that a list does not have, or a number that its type does
not have. -/
inductive Crash where
  | noPlace (i length : Nat)
  | noSlice (start stop length : Nat)
  | underflow (a b : Nat)
  | overflow (a : Nat)
  deriving DecidableEq, Repr

namespace Checked
variable {α : Type} {xs : List α} {i : Nat}

def get (xs : List α) (i : Nat) : Except Crash α :=
  match xs[i]? with
  | some x => .ok x
  | none => .error (.noPlace i xs.length)

def set (xs : List α) (i : Nat) (x : α) : Except Crash (List α) :=
  if i < xs.length then .ok (xs.set i x) else .error (.noPlace i xs.length)

def remove (xs : List α) (i : Nat) : Except Crash (List α) :=
  if i < xs.length then .ok (xs.eraseIdx i) else .error (.noPlace i xs.length)

def slice (xs : List α) (start stop : Nat) : Except Crash (List α) :=
  if start ≤ stop ∧ stop ≤ xs.length then .ok ((xs.take stop).drop start)
  else .error (.noSlice start stop xs.length)

def sub (a b : Nat) : Except Crash Nat := if b ≤ a then .ok (a - b) else .error (.underflow a b)

def next (n : UInt64) : Except Crash UInt64 :=
  if n.toNat + 1 < UInt64.size then .ok (n + 1) else .error (.overflow n.toNat)

theorem get_eq {row : List String} (h : i < row.length) : get row i = .ok (row[i]?.getD "") := by
  rw [get, List.getElem?_eq_getElem h]
  rfl

theorem set_eq (h : i < xs.length) (x : α) : set xs i x = .ok (xs.set i x) := if_pos h

theorem remove_eq (h : i < xs.length) : remove xs i = .ok (xs.eraseIdx i) := if_pos h

theorem sub_eq {a b : Nat} (h : b ≤ a) : sub a b = .ok (a - b) := if_pos h

/-- The cells at places that a row has. -/
theorem mapM_get_eq {row : List String} {indexes : List Nat} (h : ∀ i ∈ indexes, i < row.length) :
    indexes.mapM (get row) = .ok (Table.cellsAt row indexes) :=
  mapM_eq_ok fun i hi => get_eq (h i hi)

/-- Cells set one after the other, at places that the row has. -/
theorem foldlM_set_eq {cells : List (Nat × String)} {row : List String}
    (h : ∀ cell ∈ cells, cell.1 < row.length) :
    cells.foldlM (fun row cell => set row cell.1 cell.2) row =
      .ok (cells.foldl (fun row cell => row.set cell.1 cell.2) row) := by
  induction cells generalizing row with
  | nil => rfl
  | cons cell rest ih =>
    obtain ⟨hcell, hrest⟩ := List.forall_mem_cons.1 h
    rw [List.foldlM_cons, set_eq hcell]
    -- a cell that is set leaves the row as wide as it was
    exact ih fun c hc => by rw [List.length_set]; exact hrest c hc

end Checked

namespace Table
variable {t : Table} {name : String} {i : Nat}

/-- Every row is at least as wide as the header. -/
def Padded (t : Table) : Prop := ∀ row ∈ t.rows, t.header.length ≤ row.length

theorem padded_ofLines (lines : List String) : (ofLines lines).Padded :=
  fun _ => le_length_of_mem_ofLines

theorem columnIndex_lt {column : String} (h : t.columnIndex name column = .ok i) :
    i < t.header.length :=
  lt_length_of_findColumn? (findColumn?_of_columnIndex h)

theorem projected_lt {shown : Projection} {indexes : List Nat}
    (h : t.projected name shown = .ok indexes) : ∀ i ∈ indexes, i < t.header.length := by
  intro i hi
  cases shown with
  | all => cases h; exact List.mem_range.1 hi
  | columns names =>
    obtain ⟨column, -, hc⟩ := exists_of_mem_mapM h hi
    exact columnIndex_lt hc

theorem assignments_lt {pairs : List (String × String)} {cells : List (Nat × String)}
    (h : t.assignments name pairs = .ok cells) : ∀ cell ∈ cells, cell.1 < t.header.length := by
  intro cell hm
  obtain ⟨column, literal, -, hi, -⟩ := exists_of_mem_assignments h hm
  exact columnIndex_lt hi

theorem indexesWithout_lt {p : Nat → Bool} : ∀ i ∈ t.indexesWithout p, i < t.header.length :=
  fun _ hi => List.mem_range.1 (List.mem_of_mem_filter hi)

/-- A table has columns once its first row of values has named them. -/
theorem titled_ne_nil {values : List String} {t' : Table} (h : t.titled values = .ok t') :
    t'.header ≠ [] := by
  obtain ⟨-, names, hnames, rfl⟩ | ⟨hne, rfl⟩ := cases_of_titled h
  · refine of_foldlM_ok (P := (· ≠ [])) (fun v _ names names' _ he => ?_)
      (List.cons_ne_nil idColumn []) hnames
    obtain ⟨rfl, -⟩ := extendHeader_eq_ok.1 he
    exact List.append_ne_nil_of_right_ne_nil _ (List.cons_ne_nil v [])
  · exact hne

theorem length_rows_remove_le (t : Table) (condition : Option Condition) :
    (t.remove condition).rows.length ≤ t.rows.length := by
  cases condition with
  | none => exact Nat.le_refl _
  | some c => exact List.length_filter_le _ _

/-- The columns at some indexes, which the header must have, in the rows of which a condition
holds. -/
def scanChecked (t : Table) (indexes : List Nat) (condition : Option Condition) :
    Except Crash Answer := do
  let columns ← indexes.mapM (Checked.get t.header)
  pure (.scan columns ((t.rows.filter (t.rowHolds condition)).map (cellsAt · indexes)))

def assignChecked (t : Table) (condition : Option Condition) (cells : List (Nat × String)) :
    Except Crash Table := do
  let rows ← t.rows.mapM fun row =>
    if t.rowHolds condition row then
      cells.foldlM (fun row cell => Checked.set row cell.1 cell.2) row
    else pure row
  pure { t with rows }

/-- The table without the column at an index; rows that are too short for it stay. -/
def dropColumnChecked (t : Table) (i : Nat) : Except Crash Table := do
  let header ← Checked.remove t.header i
  let rows ← t.rows.mapM fun row => if i < row.length then Checked.remove row i else pure row
  pure (Table.fit ⟨header, rows⟩)

def pairChecked (leftKept rightKept : List Nat) (leftKey rightKey : Nat) (l r : List String) :
    Except Crash (Option (List String)) := do
  if keysMatch (← Checked.get l leftKey) (← Checked.get r rightKey) then
    let first ← Checked.get l 0
    let leftCells ← leftKept.mapM (Checked.get l)
    let rightCells ← rightKept.mapM (Checked.get r)
    pure (some ([first] ++ leftCells ++ rightCells))
  else pure none

def joinChecked (left right : Table) (leftName rightName : String) (leftKey rightKey : Nat) :
    Except Crash Answer := do
  let leftKept := left.indexesWithout fun i => i == 0 || i == leftKey
  let rightKept := right.indexesWithout (· == rightKey)
  let title (name : String) (column : String) := s!"{name}.{column}"
  let first ← Checked.get left.header 0
  let leftTitles ← leftKept.mapM (Checked.get left.header)
  let rightTitles ← rightKept.mapM (Checked.get right.header)
  let rows ← left.rows.mapM fun l =>
    right.rows.mapM (pairChecked leftKept rightKept leftKey rightKey l)
  pure (.scan ([first] ++ leftTitles.map (title leftName) ++ rightTitles.map (title rightName))
    (rows.flatMap (·.filterMap id)))

theorem scanChecked_eq {indexes : List Nat} (h : ∀ i ∈ indexes, i < t.header.length)
    (condition : Option Condition) :
    t.scanChecked indexes condition = .ok (t.scan indexes condition) := by
  rw [scanChecked, Checked.mapM_get_eq h]
  rfl

theorem assignChecked_eq (ht : t.Padded) {cells : List (Nat × String)}
    (h : ∀ cell ∈ cells, cell.1 < t.header.length) (condition : Option Condition) :
    t.assignChecked condition cells = .ok (t.assign condition cells) := by
  have hrows : ∀ row ∈ t.rows,
      (if t.rowHolds condition row then
        cells.foldlM (fun row cell => Checked.set row cell.1 cell.2) row else pure row) =
      Except.ok (if t.rowHolds condition row then
        cells.foldl (fun row cell => row.set cell.1 cell.2) row else row) := by
    intro row hrow
    split
    · exact Checked.foldlM_set_eq fun cell hcell => Nat.lt_of_lt_of_le (h cell hcell) (ht row hrow)
    · rfl
  rw [assignChecked, mapM_eq_ok hrows]
  rfl

/-- A row that is not padded has no place for the cell. -/
example : assignChecked ⟨["id", "a"], [["1"]]⟩ none [(1, "x")] = .error (.noPlace 1 1) := rfl

theorem dropColumnChecked_eq (h : i < t.header.length) :
    t.dropColumnChecked i = .ok (t.dropColumn i) := by
  have hrows : ∀ row ∈ t.rows,
      (if i < row.length then Checked.remove row i else pure row : Except Crash _) =
        .ok (row.eraseIdx i) := by
    intro row _
    split
    · next hi => exact Checked.remove_eq hi
    · next hi => exact congrArg Except.ok (List.eraseIdx_of_length_le (Nat.not_lt.1 hi)).symm
  simp only [dropColumnChecked, Checked.remove_eq h, bind, Except.bind, mapM_eq_ok hrows]
  rfl

theorem pairChecked_eq {leftKept rightKept : List Nat} {leftKey rightKey : Nat}
    {l r : List String} (hl : ∀ i ∈ leftKept, i < l.length) (hr : ∀ i ∈ rightKept, i < r.length)
    (hlk : leftKey < l.length) (hrk : rightKey < r.length) :
    pairChecked leftKept rightKept leftKey rightKey l r =
      .ok (if keysMatch (l[leftKey]?.getD "") (r[rightKey]?.getD "") then
        some (cellsAt l [0] ++ cellsAt l leftKept ++ cellsAt r rightKept) else none) := by
  have hl0 : 0 < l.length := Nat.zero_lt_of_lt hlk
  simp only [pairChecked, Checked.get_eq hlk, Checked.get_eq hrk, Checked.get_eq hl0,
    Checked.mapM_get_eq hl, Checked.mapM_get_eq hr, bind, Except.bind]
  split <;> rfl

/-- No place that a join needs is missing in padded tables that have the keys. -/
theorem joinChecked_eq {left right : Table} (hl : left.Padded) (hr : right.Padded)
    {leftKey rightKey : Nat} (hlk : leftKey < left.header.length)
    (hrk : rightKey < right.header.length) (leftName rightName : String) :
    left.joinChecked right leftName rightName leftKey rightKey =
      .ok (left.join right leftName rightName leftKey rightKey) := by
  have hl0 : 0 < left.header.length := Nat.zero_lt_of_lt hlk
  have hrows := mapM_eq_ok (f := fun l => right.rows.mapM (pairChecked
      (left.indexesWithout fun i => i == 0 || i == leftKey)
      (right.indexesWithout (· == rightKey)) leftKey rightKey l))
    fun l (hm : l ∈ left.rows) => mapM_eq_ok fun r hm' => pairChecked_eq
      (fun i hi => Nat.lt_of_lt_of_le (indexesWithout_lt i hi) (hl l hm))
      (fun i hi => Nat.lt_of_lt_of_le (indexesWithout_lt i hi) (hr r hm'))
      (Nat.lt_of_lt_of_le hlk (hl l hm)) (Nat.lt_of_lt_of_le hrk (hr r hm'))
  simp only [joinChecked, Checked.get_eq hl0, Checked.mapM_get_eq indexesWithout_lt, hrows,
    bind, Except.bind]
  rw [join]
  refine congrArg Except.ok (congrArg₂ Answer.scan rfl ?_)
  rw [List.flatMap_map]
  refine List.flatMap_congr fun l _ => ?_
  simp only [List.filterMap_map, ← List.filterMap_eq_map, List.filterMap_filter, Function.comp_def,
    id]

end Table

end Tabular
