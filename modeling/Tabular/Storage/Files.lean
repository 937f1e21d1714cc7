import Tabular.Storage.FileTree
import Tabular.Storage.IdMarks
import Tabular.Text.Lines

/-! Storage in files: a directory for each database, in it a file for each table and one for the id marks. -/
namespace Tabular

namespace Files

/-- What follows the name of a table in the name of its file. -/
def extension : String := ".tab"

def tablePath (d t : String) : Path := [d, t ++ extension]

def marksPath (d : String) : Path := [d, ".ids"]

/-- The table that a file name belongs to. -/
def tableOf? (file : String) : Option String :=
  let cs := file.toList
  let stem := cs.take (cs.length - extension.length)
  if !stem.isEmpty && stem ++ extension.toList == cs then some (String.ofList stem) else none

def readLines (content : List UInt8) : Except Error (List String) :=
  match Text.Utf8.decode content with
  | .ok text => .ok (Text.lines text)
  | .error _ => .error (.storage .notText)

/-- The content of a file with a line for each of some texts. -/
def writeLines (lines : List String) : List UInt8 := Text.Utf8.encode (Text.unlines lines)

def ofFile {α : Type} (x : Except FileFault α) : Except Error α := x.mapError (.storage ∘ .file)

def ask {α : Type} (q : Query α) (tree : FileTree) : Except Error α :=
  match q with
  | .databaseExists d => .ok (tree.isDir [d])
  | .listTables d => do
    let names ← ofFile (tree.list [d])
    pure ((names.filterMap tableOf?).mergeSort (· ≤ ·))
  | .tableExists d t => .ok (tree.isFile (tablePath d t))
  | .readTable d t => do
    if !tree.isFile (tablePath d t) then pure []
    else readLines (← ofFile (tree.read (tablePath d t)))
  | .loadIdMarks d => do
    if !tree.isFile (marksPath d) then pure ∅
    else (IdMarks.decode (← ofFile (tree.read (marksPath d)))).mapError (.storage ∘ .marks)

/-- The tree after a step that the file system may refuse. -/
def step (f : FileTree → Except FileFault FileTree) : EStateM Error FileTree Unit := do
  set (← ofExcept (ofFile (f (← get))))

def change : Change → EStateM Error FileTree Unit
  | .createDatabase d => step (·.create [d] .dir)
  | .deleteDatabase d => do
    if ((← get).find (marksPath d)).isOk then step (·.removeFile (marksPath d))
    step (·.removeDir [d])
  | .createTable d t lines => step (·.create (tablePath d t) (.file (writeLines lines)))
  | .writeTable d t lines => do
    if !(← get).isFile (tablePath d t) then throw (.schema (.noTable t))
    step (·.replace (tablePath d t) (writeLines lines))
  | .deleteTable d t => step (·.removeFile (tablePath d t))
  | .saveIdMarks d marks => step (·.replace (marksPath d) (IdMarks.encode marks))

end Files

instance : Storage FileTree where
  ask := Files.ask
  change := Files.change

end Tabular
