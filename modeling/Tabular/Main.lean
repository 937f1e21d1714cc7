import Tabular.Config
import Tabular.Console
import Tabular.Storage.Files

/-! The command line: the console over the databases below a directory. -/
namespace Tabular.CommandLine

structure Options where
  config : Config := {}
  verbose : Bool := false

/-- The options that arguments give before the word that asks for the console. -/
def parse (options : Options) : List String → Option Options
  | ["repl"] => some options
  | "-d" :: dir :: rest | "--data-dir" :: dir :: rest => parse { options with config.dataDir := dir } rest
  | "-v" :: rest | "--verbose" :: rest => parse { options with verbose := true } rest
  | _ => none

/-- Adds to a tree the entries below a directory. -/
partial def load (tree : FileTree) (path : Path) (dir : String) : IO FileTree := do
  let mut tree := tree
  for entry in ← (← IO.FS.realPath dir).readDir do
    let path := path ++ [entry.fileName]
    if ← entry.path.isDir then
      tree ← load (tree.set path .dir) path entry.path.toString
    else
      tree := tree.set path (.file (← IO.FS.readBinFile entry.path).toList)
  return tree

def place (dir : String) (path : Path) : String := "/".intercalate (dir :: path)

/-- Makes a directory hold a tree, given the tree that it holds. -/
def save (dir : String) (old new : FileTree) : IO Unit := do
  for (path, entry) in old.entries.entries.reverse do
    if !new.entries.contains path then
      match entry with
      | .file _ => IO.FS.removeFile (place dir path)
      | .dir => IO.FS.removeDir (place dir path)
  for (path, entry) in new.entries.entries do
    if old.entries.get? path ≠ some entry then
      match entry with
      | .dir => IO.FS.createDir (place dir path)
      | .file content =>
        let whole := place dir path ++ ".new"
        IO.FS.writeBinFile whole ⟨content.toArray⟩
        IO.FS.rename whole (place dir path)

def lineOf (bytes : ByteArray) : Option String :=
  match Text.byteLines bytes.toList with
  | [line] => (Text.Utf8.decode line).toOption
  | _ => none

/-- Reads bytes up to and with a line feed. -/
partial def readLine (input : IO.FS.Stream) (read : ByteArray) : IO ByteArray := do
  let byte ← input.read 1
  if byte.isEmpty || byte.toList == [10] then return read ++ byte
  readLine input (read ++ byte)

/-- Runs the console, and stores what each line changes. -/
partial def loop (dir : String) (input output : IO.FS.Stream) (c : Console FileTree) : IO UInt32 := do
  output.putStr c.prompt
  output.flush
  let bytes ← readLine input .empty
  if bytes.isEmpty then return 0
  let some line := lineOf bytes | return 1
  match c.enter line with
  | .stop => return 0
  | .go text c' =>
    save dir c.session.storage c'.session.storage
    output.putStr text
    loop dir input output c'

end Tabular.CommandLine

open Tabular CommandLine in
/-- Runs the console over the databases below the directory that the arguments give. -/
def main (args : List String) : IO UInt32 := do
  let config : Config := { dataDir := (← IO.getEnv "TABDB_DATA_DIR").getD ({} : Config).dataDir }
  match parse { config } args with
  | some { config, .. } =>
    IO.FS.createDirAll config.dataDir
    let storage ← load {} [] config.dataDir
    loop config.dataDir (← IO.getStdin) (← IO.getStdout) { session := { storage } }
  | _ =>
    (← IO.getStderr).putStrLn "usage: tabdb [-d DIR] [-v] repl"
    return 2
