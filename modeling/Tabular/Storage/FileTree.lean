import Tabular.SortedMap
import Tabular.Storage.Fault

/-! Directories and files below a root directory. -/
namespace Tabular

/-- The names that lead from the root to a file or directory. -/
abbrev Path := List String

instance : LE Path := List.instLE

@[instance] theorem Path.isLinearOrder : Std.IsLinearOrder Path := List.instIsLinearOrder

@[instance] theorem Path.lawfulOrderLT : Std.LawfulOrderLT Path := List.instLawfulOrderLTOfAsymmLt

inductive Entry where
  | dir
  | file (content : List UInt8)
  deriving DecidableEq, Repr

/-- The files and directories below the root, by path. -/
structure FileTree where
  entries : SortedMap Path Entry := ∅

namespace FileTree

/-- The most bytes that a name may have. -/
def nameLimit : Nat := 255

/-- What stands at the end of a path below `parent`, where `entry` stands. -/
def walk (tree : FileTree) (parent : Path) (entry : Entry) : Path → Except FileFault Entry
  | [] => .ok entry
  | name :: rest =>
    match entry with
    | .file _ => .error .notDirectory
    | .dir =>
      if nameLimit < (Text.Utf8.encode name).length then .error .nameTooLong
      else match tree.entries.get? (parent ++ [name]) with
        | some next => tree.walk (parent ++ [name]) next rest
        | none => .error .notFound

def find (tree : FileTree) (path : Path) : Except FileFault Entry := tree.walk [] .dir path

def isDir (tree : FileTree) (path : Path) : Bool :=
  match tree.find path with
  | .ok .dir => true
  | _ => false

def isFile (tree : FileTree) (path : Path) : Bool :=
  match tree.find path with
  | .ok (.file _) => true
  | _ => false

def read (tree : FileTree) (path : Path) : Except FileFault (List UInt8) := do
  match ← tree.find path with
  | .dir => throw .isDirectory
  | .file content => pure content

def list (tree : FileTree) (path : Path) : Except FileFault (List String) := do
  match ← tree.find path with
  | .file _ => throw .notDirectory
  | .dir => pure (tree.entries.keys.filterMap fun p => if p.dropLast = path then p.getLast? else none)

def set (tree : FileTree) (path : Path) (entry : Entry) : FileTree := ⟨tree.entries.insert path entry⟩

def unset (tree : FileTree) (path : Path) : FileTree := ⟨tree.entries.erase path⟩

/-- A new entry in an existing directory, where nothing stands yet. -/
def create (tree : FileTree) (path : Path) (entry : Entry) : Except FileFault FileTree := do
  discard <| tree.list path.dropLast
  match tree.find path with
  | .ok _ => throw .exists_
  | .error .notFound => pure (tree.set path entry)
  | .error fault => throw fault

/-- A file in an existing directory, in the place of one that stands there. -/
def replace (tree : FileTree) (path : Path) (content : List UInt8) : Except FileFault FileTree := do
  discard <| tree.list path.dropLast
  match tree.find path with
  | .ok .dir => throw .isDirectory
  | .ok (.file _) | .error .notFound => pure (tree.set path (.file content))
  | .error fault => throw fault

def removeFile (tree : FileTree) (path : Path) : Except FileFault FileTree := do
  discard <| tree.read path
  pure (tree.unset path)

/-- The tree without an empty directory. -/
def removeDir (tree : FileTree) (path : Path) : Except FileFault FileTree := do
  if !(← tree.list path).isEmpty then throw .notEmpty
  pure (tree.unset path)

end FileTree

end Tabular
