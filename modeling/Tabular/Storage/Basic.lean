import Tabular.Error
import Tabular.SortedMap

/-! Storage of databases: named tables of text lines, and the highest id handed out in each. -/
namespace Tabular

/-- The highest id handed out, by table. -/
abbrev IdMarks := SortedMap String UInt64

/-- A question to storage, by the type of its answer. -/
inductive Query : Type → Type where
  | databaseExists (database : String) : Query Bool
  /-- The names of the tables, in order. -/
  | listTables (database : String) : Query (List String)
  | tableExists (database table : String) : Query Bool
  /-- The lines of a table; none if there is no such table. -/
  | readTable (database table : String) : Query (List String)
  | loadIdMarks (database : String) : Query IdMarks

inductive Change where
  | createDatabase (database : String)
  /-- Removes a database whose tables are already deleted. -/
  | deleteDatabase (database : String)
  | createTable (database table : String) (lines : List String)
  | writeTable (database table : String) (lines : List String)
  | deleteTable (database table : String)
  | saveIdMarks (database : String) (marks : IdMarks)

/-- A type whose values store databases. A question changes nothing; a change that fails may have done a part. -/
class Storage (σ : Type) where
  ask {α : Type} : Query α → σ → Except Error α
  change : Change → EStateM Error σ Unit

def Query.method {α : Type} : Query α → Method
  | databaseExists _ => .databaseExists
  | listTables _ => .listTables
  | tableExists _ _ => .tableExists
  | readTable _ _ => .readTable
  | loadIdMarks _ => .loadIdMarks

/-- What a question is about: a table if it names one, otherwise a database. -/
def Query.subject {α : Type} : Query α → String
  | databaseExists d | listTables d | loadIdMarks d => d
  | tableExists _ t | readTable _ t => t

def Change.method : Change → Method
  | createDatabase _ => .createDatabase
  | deleteDatabase _ => .deleteDatabase
  | createTable _ _ _ => .createTable
  | writeTable _ _ _ => .writeTable
  | deleteTable _ _ => .deleteTable
  | saveIdMarks _ _ => .saveIdMarks

def Change.subject : Change → String
  | createDatabase d | deleteDatabase d | saveIdMarks d _ => d
  | createTable _ t _ | writeTable _ t _ | deleteTable _ t => t

end Tabular
