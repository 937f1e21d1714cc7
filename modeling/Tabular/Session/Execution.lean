import Tabular.Session.Answer
import Tabular.Session.Basic
import Tabular.Statement.Parser

/-! What each statement does. -/
namespace Tabular

/-- The content of a literal as a cell, which holds no tab and no line break. -/
def cellOf (literal : String) : Except Error String :=
  let value := unquote literal
  if value.toList.any (· ∈ ['\t', '\n', '\r']) then .error (.schema (.badLiteral literal)) else .ok value

namespace Table

def insertRow (t : Table) (id : UInt64) (values : List String) : Table := t.push (toString id.toNat :: values)

/-- The cells, by index, that assignments set in the rows of the table `name`. -/
def assignments (t : Table) (name : String) (pairs : List (String × String)) : Except Error (List (Nat × String)) :=
  pairs.mapM fun (column, literal) => do
    if isIdColumn column then throw (.schema .updateOfId)
    let i ← t.columnIndex name column
    pure (i, ← cellOf literal)

/-- The indexes of the columns that a projection of the table `name` shows. -/
def projected (t : Table) (name : String) : Projection → Except Error (List Nat)
  | .all => .ok (List.range t.header.length)
  | .columns names => names.mapM (t.columnIndex name)

/-- The columns at some indexes, in the rows of which a condition holds. -/
def scan (t : Table) (indexes : List Nat) (condition : Option Condition) : Answer :=
  .scan (cellsAt t.header indexes) ((t.rows.filter (t.rowHolds condition)).map (cellsAt · indexes))

/-- The pairs of rows with matching keys, side by side: the first column of the left table,
its other columns without the key, and the columns of the right table without the key.
All but the first are named after their tables. -/
def join (left right : Table) (leftName rightName : String) (leftKey rightKey : Nat) : Answer :=
  let leftKept := left.indexesWithout fun i => i == 0 || i == leftKey
  let rightKept := right.indexesWithout (· == rightKey)
  let title (name : String) (column : String) := s!"{name}.{column}"
  .scan
    (cellsAt left.header [0] ++ (cellsAt left.header leftKept).map (title leftName) ++
      (cellsAt right.header rightKept).map (title rightName))
    (left.rows.flatMap fun l =>
      (right.rows.filter fun r => keysMatch (l[leftKey]?.getD "") (r[rightKey]?.getD "")).map fun r =>
        cellsAt l [0] ++ cellsAt l leftKept ++ cellsAt r rightKept)

end Table

namespace Statement
open Session
variable {σ : Type} [Storage σ]

/-- Deletes tables of a database, and says whether all could be deleted. -/
def deleteTables (d : String) : List String → SessionM σ Bool
  | [] => pure true
  | t :: rest => do
    let done ← tryCatch (do change (.deleteTable d t); pure true) fun _ => pure false
    pure ((← deleteTables d rest) && done)

def executeUse (d : String) : SessionM σ Answer := do
  if !(← ask (.databaseExists d)) then throw (.schema (.noDatabase d))
  switchTo d
  pure (.use d)

def executeCreateDatabase (d : String) : SessionM σ Answer := do
  if ← ask (.databaseExists d) then throw (.schema (.databaseExists d))
  change (.createDatabase d)
  pure (.createDatabase d)

/-- Removes a database after its tables. What cannot be removed does not keep the rest,
but it keeps the database. -/
def executeDropDatabase (d : String) : SessionM σ Answer := do
  if !(← ask (.databaseExists d)) then throw (.schema (.noDatabase d))
  if !(← deleteTables d (← ask (.listTables d))) then throw (.storage (.filesLeft d))
  tryCatch (change (.deleteDatabase d)) fun _ => throw (.storage (.filesLeft d))
  if (← get).context.database = some d then clear
  pure (.dropDatabase d)

/-- Makes a table, with a header if columns are given, that has handed out no ids. -/
def executeCreateTable (table : String) (columns : List String) : SessionM σ Answer := do
  let d ← requireDatabase
  if ← ask (.tableExists d table) then throw (.schema (.tableExists table))
  let header := if columns.isEmpty then [] else idColumn :: columns
  change (.createTable d table (Table.toLines ⟨header, []⟩))
  forgetTable table
  pure (.createTable table)

def executeDropTable (table : String) : SessionM σ Answer := do
  let d ← requireDatabase
  if !(← ask (.tableExists d table)) then throw (.schema (.noTable table))
  change (.deleteTable d table)
  forgetTable table
  pure (.dropTable table)

def executeAlter (table : String) (what : ColumnChange) (column : String) : SessionM σ Answer := do
  let (d, t) ← loadTable table
  if isIdColumn column then throw (.schema .alterOfId)
  let t' ← match what with
    | .add =>
      if (findColumn? t.header column).isSome then throw (.schema (.columnExists column table))
      else pure (t.addColumn column)
    | .drop => t.dropColumn <$> ofExcept (t.columnIndex table column)
  change (.writeTable d table t'.toLines)
  pure (.alter table)

/-- Adds a row under a new id, which is noted before the row is stored. -/
def executeInsert (table : String) (literals : List String) : SessionM σ Answer := do
  let (d, t) ← loadTable table
  let values ← ofExcept (literals.mapM cellOf)
  let t ← ofExcept (t.titled values)
  if values.length ≠ t.header.length - 1 then
    throw (.schema (.countMismatch (t.header.length - 1) values.length))
  let id ← nextId table t
  recordId table id
  change (.writeTable d table (t.insertRow id values).toLines)
  pure (.insert table id)

def executeSelect (table : String) (shown : Projection) (condition : Option Condition) : SessionM σ Answer := do
  let (_, t) ← loadTitled table
  pure (t.scan (← ofExcept (t.projected table shown)) condition)

def executeUpdate (table : String) (pairs : List (String × String)) (condition : Option Condition) :
    SessionM σ Answer := do
  let (d, t) ← loadTitled table
  let cells ← ofExcept (t.assignments table pairs)
  change (.writeTable d table (t.assign condition cells).toLines)
  pure (.update (t.rows.countP (t.rowHolds condition)))

def executeDelete (table : String) (condition : Option Condition) : SessionM σ Answer := do
  let (d, t) ← loadTitled table
  let t' := t.remove condition
  change (.writeTable d table t'.toLines)
  pure (.delete (t.rows.length - t'.rows.length))

def executeJoin (left right leftColumn rightColumn : String) : SessionM σ Answer := do
  let (_, l) ← loadTitled left
  let (_, r) ← loadTitled right
  let leftKey ← ofExcept (l.columnIndex left leftColumn)
  let rightKey ← ofExcept (r.columnIndex right rightColumn)
  pure (l.join r left right leftKey rightKey)

def execute : Statement → SessionM σ Answer
  | use d => executeUse d
  | createDatabase d => executeCreateDatabase d
  | dropDatabase d => executeDropDatabase d
  | createTable table columns => executeCreateTable table columns
  | dropTable table => executeDropTable table
  | alter table what column => executeAlter table what column
  | insert table literals => executeInsert table literals
  | select table shown condition => executeSelect table shown condition
  | update table pairs condition => executeUpdate table pairs condition
  | delete table condition => executeDelete table condition
  | join left right leftColumn rightColumn => executeJoin left right leftColumn rightColumn

end Statement

namespace Session
variable {σ : Type} [Storage σ]

/-- Reads and executes the statement that a text writes. -/
def execute (text : String) : SessionM σ Answer := do (← ofExcept (Statement.ofText text)).execute

/-- The response to a text, and the session after it. -/
def respond (s : Session σ) (text : String) : String × Session σ :=
  if (Text.trim text).isEmpty then ("[ERROR] Empty command received.", s)
  else match execute text s with
    | .ok answer s' => (answer.render, s')
    | .error e s' => (s!"[ERROR] {e.message}", s')

end Session

end Tabular
