import Tabular.Storage.Basic

/-! Storage in memory. -/
namespace Tabular

/-- The tables of a database, each with its lines, and their id marks. -/
structure StoredDatabase where
  tables : SortedMap String (List String) := ∅
  marks : IdMarks := ∅

structure Memory where
  databases : SortedMap String StoredDatabase := ∅

namespace Memory

def database (m : Memory) (d : String) : Except Error StoredDatabase :=
  match m.databases.get? d with
  | some db => .ok db
  | none => .error (.storage (.noDatabase d))

def setDatabase (m : Memory) (d : String) (db : StoredDatabase) : Memory := ⟨m.databases.insert d db⟩

def setTables (m : Memory) (d : String) (db : StoredDatabase) (tables : SortedMap String (List String)) : Memory :=
  m.setDatabase d { db with tables }

def ask {α : Type} (q : Query α) (m : Memory) : Except Error α :=
  match q with
  | .databaseExists d => .ok (m.databases.contains d)
  | .listTables d => (·.tables.keys) <$> m.database d
  | .tableExists d t =>
    .ok (match m.databases.get? d with
      | some db => db.tables.contains t
      | none => false)
  | .readTable d t => .ok (((m.databases.get? d).bind (·.tables.get? t)).getD [])
  | .loadIdMarks d => (·.marks) <$> m.database d

def changed (m : Memory) : Change → Except Error Memory
  | .createDatabase d =>
    if m.databases.contains d then .error (.storage (.databaseExists d)) else .ok (m.setDatabase d {})
  | .deleteDatabase d => do
    if !(← m.database d).tables.isEmpty then .error (.storage (.databaseNotEmpty d))
    else .ok ⟨m.databases.erase d⟩
  | .createTable d t lines => do
    let db ← m.database d
    if db.tables.contains t then .error (.storage (.tableExists t))
    else .ok (m.setTables d db (db.tables.insert t lines))
  | .writeTable d t lines => do
    let db ← m.database d
    if db.tables.contains t then .ok (m.setTables d db (db.tables.insert t lines))
    else .error (.schema (.noTable t))
  | .deleteTable d t => do
    let db ← m.database d
    if db.tables.contains t then .ok (m.setTables d db (db.tables.erase t))
    else .error (.storage (.noTable t))
  | .saveIdMarks d marks => do
    let db ← m.database d
    .ok (m.setDatabase d { db with marks })

end Memory

instance : Storage Memory where
  ask := Memory.ask
  change c := fun m =>
    match m.changed c with
    | .ok m' => .ok () m'
    | .error e => .error e m

end Tabular
