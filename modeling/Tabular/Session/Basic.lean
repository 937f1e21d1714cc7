import Tabular.Storage.Basic
import Tabular.Table

/-! Sessions: the active database and the id marks of its tables, over storage. -/
namespace Tabular

/-- The active database, and the highest id that each of its tables is known to have handed out. -/
structure Context where
  database : Option String := none
  marks : IdMarks := ∅

structure Session (σ : Type) where
  context : Context := {}
  storage : σ

/-- The id after all those handed out and stored in a table. -/
def Context.nextId (c : Context) (table : String) (t : Table) : Except Error UInt64 :=
  let last := max ((c.marks.get? table).getD 0) t.maxId
  if last.toNat + 1 < UInt64.size then .ok (last + 1) else .error (.schema (.noIdsLeft table))

/-- The marks of the tables there are, each raised to the highest id stored. -/
def raiseMarks (marks : IdMarks) (stored : List (String × UInt64)) : IdMarks :=
  stored.foldl (fun marks e => marks.insert e.1 (max ((marks.get? e.1).getD 0) e.2))
    (marks.filterKeys fun t => t ∈ stored.map (·.1))

/-- What a session does: it may fail, and keeps what it has done. -/
abbrev SessionM (σ α : Type) := EStateM Error (Session σ) α

namespace Session
variable {σ : Type} [Storage σ]

def ask {α : Type} (q : Query α) : SessionM σ α := do ofExcept (Storage.ask q (← get).storage)

def change (c : Change) : SessionM σ Unit := fun s =>
  match Storage.change c s.storage with
  | .ok _ storage => .ok () { s with storage }
  | .error e storage => .error e { s with storage }

def setContext {σ : Type} (c : Context) : SessionM σ Unit := modify fun s => { s with context := c }

def requireDatabase {σ : Type} : SessionM σ String := do
  match (← get).context.database with
  | some d => pure d
  | none => throw .noActiveDatabase

/-- Makes a database active, with the marks of its tables as they are stored. -/
def switchTo (d : String) : SessionM σ Unit := do
  let tables ← ask (.listTables d)
  let marks ← ask (.loadIdMarks d)
  let stored ← tables.mapM fun t => do pure (t, (Table.ofLines (← ask (.readTable d t))).maxId)
  setContext ⟨some d, raiseMarks marks stored⟩

def clear {σ : Type} : SessionM σ Unit := setContext {}

def nextId {σ : Type} (table : String) (t : Table) : SessionM σ UInt64 := do
  ofExcept ((← get).context.nextId table t)

def saveMarks : SessionM σ Unit := do
  change (.saveIdMarks (← requireDatabase) (← get).context.marks)

/-- Notes that an id is handed out, and stores the marks. -/
def recordId (table : String) (id : UInt64) : SessionM σ Unit := do
  let _ ← requireDatabase
  modify fun s => { s with context.marks := s.context.marks.insert table id }
  saveMarks

/-- Forgets which ids a table has handed out, and stores the marks if it had any. -/
def forgetTable (table : String) : SessionM σ Unit := do
  if (← get).context.marks.contains table then
    modify fun s => { s with context.marks := s.context.marks.erase table }
    saveMarks

def loadTable (table : String) : SessionM σ (String × Table) := do
  let d ← requireDatabase
  if !(← ask (.tableExists d table)) then throw (.schema (.noTable table))
  pure (d, .ofLines (← ask (.readTable d table)))

/-- The active database and one of its tables that have columns. -/
def loadTitled (table : String) : SessionM σ (String × Table) := do
  let (d, t) ← loadTable table
  if t.header.isEmpty then throw (.schema (.emptyTable table))
  pure (d, t)

end Session

end Tabular
