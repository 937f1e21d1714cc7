import Tabular.Proofs.Table.Changes

/-! What assignments do to a row: each column has the value of the last assignment to it, if there
is one, so that to assign the same again changes nothing. -/
namespace Tabular

/-- The value of the last assignment to a column, up to the case of ASCII letters. -/
def lastAssigned? (pairs : List (String × String)) (column : String) : Option String :=
  (pairs.filter fun pair => Text.eqCaseless column pair.1).getLast?.map fun pair => unquote pair.2

theorem lastAssigned?_cons (pair : String × String) (rest : List (String × String))
    (column : String) :
    lastAssigned? (pair :: rest) column =
      (lastAssigned? rest column).or
        (if Text.eqCaseless column pair.1 then some (unquote pair.2) else none) := by
  unfold lastAssigned?
  rw [List.filter_cons]
  split
  · cases hlast : (rest.filter fun pair => Text.eqCaseless column pair.1).getLast? with
    | none => simp [List.getLast?_eq_none_iff.1 hlast]
    | some last => simp [List.getLast?_cons, hlast]
  · rw [Option.or_none]

def assignRow (header : List String) (pairs : List (String × String)) (row : List String) :
    List String :=
  List.zipWith (fun column cell => (lastAssigned? pairs column).getD cell) header row

theorem assignRow_assignRow (header : List String) (pairs : List (String × String))
    (row : List String) : assignRow header pairs (assignRow header pairs row) =
      assignRow header pairs row := by
  unfold assignRow
  induction header generalizing row with
  | nil => rfl
  | cons column header ih =>
    cases row with
    | nil => rfl
    | cons cell row =>
      rw [List.zipWith_cons_cons, List.zipWith_cons_cons, ih]
      cases lastAssigned? pairs column <;> rfl

theorem getElem?_assignRow {header row : List String} (pairs : List (String × String)) {j : Nat}
    {column : String} (hj : header[j]? = some column) :
    (assignRow header pairs row)[j]? = row[j]?.map (lastAssigned? pairs column).getD := by
  rw [assignRow, List.getElem?_zipWith, hj]
  cases row[j]? <;> rfl

theorem eq_index_iff {header : List String}
    (hd : header.Pairwise fun a b => Text.eqCaseless a b = false) {column name : String} {i j : Nat}
    (hi : findColumn? header column = some i) (hj : header[j]? = some name) :
    j = i ↔ Text.eqCaseless name column = true := by
  constructor
  · rintro rfl
    exact eqCaseless_of_findColumn? hi hj
  · intro hname
    have hlt := lt_length_of_findColumn? hi
    have hfound := eqCaseless_of_findColumn? hi (List.getElem?_eq_getElem hlt)
    obtain ⟨hjlt, rfl⟩ := List.getElem?_eq_some_iff.1 hj
    have hsame := Text.eqCaseless_trans hname (Text.eqCaseless_symm hfound)
    have hdistinct := List.pairwise_iff_getElem.1 hd
    rcases Nat.lt_trichotomy j i with hji | rfl | hij
    · rw [hdistinct j i hjlt hlt hji] at hsame
      cases hsame
    · rfl
    · have hother := hdistinct i j hlt hjlt hij
      rw [Text.eqCaseless_symm hsame] at hother
      cases hother

theorem assignRow_nil {header row : List String} (hw : row.length = header.length) :
    assignRow header [] row = row := by
  refine List.ext_getElem? fun j => ?_
  cases hj : header[j]? with
  | none =>
    rw [assignRow, List.getElem?_zipWith, hj]
    rw [List.getElem?_eq_none_iff, ← hw] at hj
    exact (List.getElem?_eq_none hj).symm
  | some column =>
    rw [getElem?_assignRow [] hj]
    exact Option.map_id_apply

/-- An assignment before others is a cell that is set before them. -/
theorem assignRow_set {header : List String}
    (hd : header.Pairwise fun a b => Text.eqCaseless a b = false) {pair : String × String} {i : Nat}
    (hi : findColumn? header pair.1 = some i) (rest : List (String × String)) {row : List String}
    (hw : row.length = header.length) :
    assignRow header rest (row.set i (unquote pair.2)) = assignRow header (pair :: rest) row := by
  refine List.ext_getElem? fun j => ?_
  cases hj : header[j]? with
  | none => simp [assignRow, List.getElem?_zipWith, hj]
  | some column =>
    have hjlt : j < row.length := hw ▸ (List.getElem?_eq_some_iff.1 hj).1
    rw [getElem?_assignRow _ hj, getElem?_assignRow _ hj, lastAssigned?_cons, List.getElem?_set]
    by_cases hij : i = j
    · subst hij
      rw [if_pos rfl, if_pos hjlt, if_pos ((eq_index_iff hd hi hj).1 rfl)]
      cases lastAssigned? rest column <;> simp [hjlt]
    · have hne : ¬Text.eqCaseless column pair.1 = true := fun he =>
        hij ((eq_index_iff hd hi hj).2 he).symm
      rw [if_neg hij, if_neg hne, Option.or_none]

namespace Table
variable {t : Table} {name : String} {pairs : List (String × String)}
  {cells : List (Nat × String)}

/-- Every assignment that is accepted is to a column after the id. -/
theorem exists_column_of_assignments (hc : t.assignments name pairs = .ok cells) :
    ∀ pair ∈ pairs, isIdColumn pair.1 = false ∧
      ∃ column ∈ t.header, Text.eqCaseless column pair.1 = true := by
  induction pairs generalizing cells with
  | nil => simp
  | cons pair rest ih =>
    obtain ⟨i, value, others, hid, hi, -, hrest, -⟩ := of_assignments_cons hc
    have hfind := findColumn?_of_columnIndex hi
    have hlt := lt_length_of_findColumn? hfind
    have hfound := eqCaseless_of_findColumn? hfind (List.getElem?_eq_getElem hlt)
    exact List.forall_mem_cons.2 ⟨⟨hid, _, List.getElem_mem hlt, hfound⟩, ih hrest⟩

/-- Cells that are set one after the other are those of the last assignments. -/
theorem foldl_set_eq_assignRow (hd : t.header.Pairwise fun a b => Text.eqCaseless a b = false)
    (hc : t.assignments name pairs = .ok cells) {row : List String}
    (hw : row.length = t.header.length) :
    cells.foldl (fun row cell => row.set cell.1 cell.2) row = assignRow t.header pairs row := by
  -- The first cell is set before the rest, so the row varies and the later assignments win.
  induction pairs generalizing cells row with
  | nil =>
    cases hc
    exact (assignRow_nil hw).symm
  | cons pair rest ih =>
    obtain ⟨i, value, others, -, hi, hv, hrest, rfl⟩ := of_assignments_cons hc
    obtain ⟨rfl, -⟩ := cellOf_eq_ok.1 hv
    have hfind := findColumn?_of_columnIndex hi
    rw [List.foldl_cons, ih hrest (by rw [List.length_set, hw]), assignRow_set hd hfind rest hw]

def assignedRow (t : Table) (condition : Option Condition) (pairs : List (String × String))
    (row : List String) : List String :=
  if t.rowHolds condition row then assignRow t.header pairs row else row

def assigned (t : Table) (condition : Option Condition) (pairs : List (String × String)) : Table :=
  ⟨t.header, t.rows.map (t.assignedRow condition pairs)⟩

/-- Assignments that are accepted assign the last values. -/
theorem WellFormed.assign_eq (h : t.WellFormed) (hc : t.assignments name pairs = .ok cells)
    (condition : Option Condition) : t.assign condition cells = t.assigned condition pairs := by
  rw [Table.assign, assigned]
  congr 1
  refine List.map_congr_left fun row hr => ?_
  rw [assignedRow, foldl_set_eq_assignRow h.header.distinct hc (h.width row hr)]

/-- A row that has been assigned is left as it is by the same assignments, whether the condition
holds of it then or not. -/
theorem assignedRow_assignedRow (t : Table) (condition : Option Condition)
    (pairs : List (String × String)) (row : List String) :
    t.assignedRow condition pairs (t.assignedRow condition pairs row) =
      t.assignedRow condition pairs row := by
  by_cases h : t.rowHolds condition row = true
  · have hrow : t.assignedRow condition pairs row = assignRow t.header pairs row := if_pos h
    rw [hrow, assignedRow, assignRow_assignRow, ite_self]
  · have hrow : t.assignedRow condition pairs row = row := if_neg h
    rw [hrow, hrow]

theorem assigned_assigned (t : Table) (condition : Option Condition)
    (pairs : List (String × String)) :
    (t.assigned condition pairs).assigned condition pairs = t.assigned condition pairs := by
  have hrow := fun row (_ : row ∈ t.rows) => t.assignedRow_assignedRow condition pairs row
  have hrows : (t.rows.map (t.assignedRow condition pairs)).map (t.assignedRow condition pairs) =
      t.rows.map (t.assignedRow condition pairs) := by
    rw [List.map_map]
    exact List.map_congr_left hrow
  exact congrArg (Table.mk t.header) hrows

/-- A row that has been assigned keeps its id and its length, and has the last values in the columns
that are assigned if the condition held of it. -/
theorem WellFormed.of_assignedRow (h : t.WellFormed) (hc : t.assignments name pairs = .ok cells)
    (condition : Option Condition) {row : List String} (hr : row ∈ t.rows) :
    (t.assignedRow condition pairs row).length = row.length ∧
      (t.assignedRow condition pairs row).head? = row.head? ∧
      (t.rowHolds condition row = false → t.assignedRow condition pairs row = row) ∧
      (t.rowHolds condition row = true → ∀ (j : Nat) (column : String),
        t.header[j]? = some column →
          (t.assignedRow condition pairs row)[j]? = (lastAssigned? pairs column).or row[j]?) := by
  have hw := h.width row hr
  unfold assignedRow
  cases t.rowHolds condition row with
  | false => exact ⟨rfl, rfl, fun _ => rfl, nofun⟩
  | true =>
    obtain ⟨hhead, hlength, -⟩ := foldl_set (of_mem_assignments h.header.first hc) row
    rw [foldl_set_eq_assignRow h.header.distinct hc hw] at hhead hlength
    refine ⟨hlength, hhead, nofun, fun _ j column hj => ?_⟩
    have hjlt : j < row.length := hw ▸ (List.getElem?_eq_some_iff.1 hj).1
    rw [if_pos rfl, getElem?_assignRow pairs hj, List.getElem?_eq_getElem hjlt]
    cases lastAssigned? pairs column <;> rfl

theorem assignments_assigned (t : Table) (name : String) (condition : Option Condition)
    (pairs : List (String × String)) :
    (t.assigned condition pairs).assignments name pairs = t.assignments name pairs := rfl

end Table

end Tabular
