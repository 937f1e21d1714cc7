import Tabular.Text.Utf8

/-! What can go wrong in storage. -/
namespace Tabular

inductive FileFault where
  | notFound | exists_ | notDirectory | isDirectory | nameTooLong | notEmpty
  deriving DecidableEq, Repr

namespace FileFault

def code : FileFault → Nat
  | notFound => 2
  | exists_ => 17
  | notDirectory => 20
  | isDirectory => 21
  | nameTooLong => 36
  | notEmpty => 39

def text : FileFault → String
  | notFound => "No such file or directory"
  | exists_ => "File exists"
  | notDirectory => "Not a directory"
  | isDirectory => "Is a directory"
  | nameTooLong => "File name too long"
  | notEmpty => "Directory not empty"

def message (f : FileFault) : String := s!"{f.text} (os error {f.code})"

end FileFault

inductive MarksFault where
  /-- The bytes end inside a number. -/
  | truncated
  /-- A name is longer than the bytes that are left. -/
  | overlong
  | badName (fault : Text.Utf8.Fault)
  deriving DecidableEq, Repr

def MarksFault.message : MarksFault → String
  | truncated => "io error: unexpected end of file"
  | overlong => "io error: "
  | badName fault => s!"string is not valid utf8: {fault.message}"

inductive Method where
  | databaseExists | createDatabase | deleteDatabase | listTables | tableExists | createTable | readTable
  | writeTable | deleteTable | loadIdMarks | saveIdMarks
  deriving DecidableEq, Repr

namespace Method

def all : List Method :=
  [databaseExists, createDatabase, deleteDatabase, listTables, tableExists, createTable, readTable,
    writeTable, deleteTable, loadIdMarks, saveIdMarks]

def name : Method → String
  | databaseExists => "database_exists"
  | createDatabase => "create_database"
  | deleteDatabase => "delete_database"
  | listTables => "list_tables"
  | tableExists => "table_exists"
  | createTable => "create_table"
  | readTable => "read_table"
  | writeTable => "write_table"
  | deleteTable => "delete_table"
  | loadIdMarks => "load_id_marks"
  | saveIdMarks => "save_id_marks"

def ofName? (s : String) : Option Method := all.find? (·.name == s)

end Method

inductive StorageFault where
  | noDatabase (database : String)
  | databaseExists (database : String)
  | databaseNotEmpty (database : String)
  | tableExists (table : String)
  | noTable (table : String)
  | file (fault : FileFault)
  /-- A table file is not text. -/
  | notText
  | marks (fault : MarksFault)
  /-- Some tables of a database could not be deleted. -/
  | filesLeft (database : String)
  /-- The operation was made to fail. -/
  | injected (method : Method)
  deriving DecidableEq, Repr

def StorageFault.message : StorageFault → String
  | noDatabase d => s!"database directory '{d}' not found"
  | databaseExists d => s!"database '{d}' already exists"
  | databaseNotEmpty d => s!"database '{d}' is not empty"
  | tableExists t => s!"table file '{t}' already exists"
  | noTable t => s!"table file '{t}' not found"
  | file fault => fault.message
  | notText => "stream did not contain valid UTF-8"
  | marks fault => fault.message
  | filesLeft d => s!"Could not delete some files in database '{d}'."
  | injected method => s!"injected failure in {method.name}"

end Tabular
