import Tabular.Condition.Basic
import Tabular.Error

/-! Tables and their lines: the header first, then one line per row, with tabs between cells. -/
namespace Tabular

/-- A header and rows; a table without a header has no columns yet. -/
structure Table where
  header : List String
  rows : List (List String)
  deriving DecidableEq, Repr

def idColumn : String := "id"

/-- A column is the one that numbers the rows, up to the case of ASCII letters. -/
def isIdColumn (column : String) : Bool := Text.eqCaseless column idColumn

def splitCells (line : String) : List String := (line.toList.splitOn '\t').map String.ofList

def joinCells (cells : List String) : String := String.intercalate "\t" cells

theorem joinCells_splitCells (line : String) : joinCells (splitCells line) = line := by
  apply String.toList_injective
  simp only [joinCells, splitCells, String.toList_intercalate, List.map_map]
  have h : String.toList ∘ String.ofList = id := funext fun _ => String.toList_ofList
  rw [h, List.map_id]
  exact List.intercalate_splitOn '\t'

theorem splitCells_joinCells {cells : List String} (hne : cells ≠ []) (h : ∀ c ∈ cells, '\t' ∉ c.toList) :
    splitCells (joinCells cells) = cells := by
  rw [splitCells, joinCells, String.toList_intercalate, show "\t".toList = ['\t'] from rfl,
    List.splitOn_intercalate _ (by simpa using h) (by simpa using hne), List.map_map]
  simp [Function.comp_def]

/-- A row with null cells added up to a width. -/
def padRow (width : Nat) (row : List String) : List String := row.rightpad width nullCell

def fitRow (width : Nat) (row : List String) : List String := padRow width (row.take width)

theorem length_padRow (width : Nat) (row : List String) : (padRow width row).length = max width row.length := by
  simp [padRow, List.rightpad]; omega

theorem length_fitRow (width : Nat) (row : List String) : (fitRow width row).length = width := by
  rw [fitRow, length_padRow, List.length_take]; omega

namespace Table

/-- The table that lines hold. Empty lines hold no row, and rows are padded to the width of the header. -/
def ofLines : List String → Table
  | [] => ⟨[], []⟩
  | first :: rest =>
    let header := if first.isEmpty then [] else splitCells first
    ⟨header, (rest.filter (!·.isEmpty)).map fun line => padRow header.length (splitCells line)⟩

theorem le_length_of_mem_ofLines {lines : List String} {row : List String}
    (h : row ∈ (ofLines lines).rows) : (ofLines lines).header.length ≤ row.length := by
  cases lines with
  | nil => simp [ofLines] at h
  | cons first rest =>
    simp only [ofLines, List.mem_map] at h ⊢
    obtain ⟨line, _, rfl⟩ := h
    rw [length_padRow]
    omega

/-- The lines of a table; without a header there are none. -/
def toLines (t : Table) : List String :=
  if t.header.isEmpty then [] else (t.header :: t.rows).map joinCells

def columnIndex (t : Table) (name column : String) : Except Error Nat :=
  match findColumn? t.header column with
  | some i => .ok i
  | none => .error (.schema (.noColumn column name))

/-- The id of a row, if its first cell is a number. -/
def rowId? (row : List String) : Option UInt64 := row.head?.bind fun cell => unsigned64? (Text.trim cell)

def maxId (t : Table) : UInt64 := (t.rows.filterMap rowId?).foldl max 0

def rowHolds (t : Table) (condition : Option Condition) (row : List String) : Bool :=
  match condition with
  | some c => c.holds t.header row
  | none => true

/-- The table with the column names that its first row of values gives, if it has none yet. -/
def titled (t : Table) (values : List String) : Except Error Table :=
  if t.header.isEmpty then do
    let header ← values.foldlM (fun header v =>
      if isIdColumn v || (findColumn? header v).isSome then .error (.schema (.invalidColumn v))
      else .ok (header ++ [v])) [idColumn]
    pure { t with header }
  else .ok t

def push (t : Table) (row : List String) : Table := { t with rows := t.rows ++ [row] }

def assign (t : Table) (condition : Option Condition) (cells : List (Nat × String)) : Table :=
  { t with
    rows := t.rows.map fun row =>
      if t.rowHolds condition row then cells.foldl (fun row cell => row.set cell.1 cell.2) row else row }

/-- The table without the rows of which a condition holds; without a condition all rows stay. -/
def remove (t : Table) : Option Condition → Table
  | some c => { t with rows := t.rows.filter fun row => !c.holds t.header row }
  | none => t

def fit (t : Table) : Table := { t with rows := t.rows.map (fitRow t.header.length) }

def addColumn (t : Table) (column : String) : Table :=
  { t with header := (if t.header.isEmpty then [idColumn] else t.header) ++ [column] }.fit

def dropColumn (t : Table) (i : Nat) : Table :=
  Table.fit ⟨t.header.eraseIdx i, t.rows.map (·.eraseIdx i)⟩

/-- The cells of a row at some indexes, empty where there is none. -/
def cellsAt (row : List String) (indexes : List Nat) : List String := indexes.map fun i => row[i]?.getD ""

def indexesWithout (t : Table) (p : Nat → Bool) : List Nat := (List.range t.header.length).filter (!p ·)

end Table

end Tabular
