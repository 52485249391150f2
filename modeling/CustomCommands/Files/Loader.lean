import CustomCommands.Command
import CustomCommands.Files.FileTree
import CustomCommands.Host.Notice
import CustomCommands.Toml.Document
import CustomCommands.Yaml.Document

/-!
# Loading units

A unit is a file with one command, which is named after the file. The units of a
directory are read in the order of their names; one that fails, or whose name an
earlier one has in any letter case, is left out and told of.
-/

namespace CustomCommands

inductive UnitFormat where
  | yaml
  | toml
  deriving DecidableEq, Repr

def UnitFormat.ofPath? (path : String) : Option UnitFormat :=
  match Path.extension? path with
  | some "yml" => some .yaml
  | some "yaml" => some .yaml
  | some "toml" => some .toml
  | _ => none

/-- How units of either format are read. -/
structure UnitReaders where
  yaml : String → Option CommandDefinition
  toml : String → Option CommandDefinition

namespace UnitReaders

def standard : UnitReaders where
  yaml text := (Yaml.readDocument CommandDefinition.scope text).bind CommandDefinition.read
  toml text := (Toml.readDocument text).bind CommandDefinition.read

def read (r : UnitReaders) : UnitFormat → String → Option CommandDefinition
  | .yaml => r.yaml
  | .toml => r.toml

end UnitReaders

inductive UnitError where
  | io (e : FileError)
  | malformed (format : UnitFormat)
  | definition (e : DefinitionError)
  | fileName (path : String)
  | format (path : String)
  | duplicate (name first : String)
  deriving DecidableEq, Repr

namespace UnitError

def message : UnitError → String
  | io e => "I/O error: " ++ e.message
  | malformed .yaml => "YAML parse error"
  | malformed .toml => "TOML parse error"
  | definition e => "invalid command definition: " ++ e.message
  | fileName path => "invalid command definition: unusable file name: " ++ path
  | format path => "invalid command definition: unsupported unit format: " ++ path
  | duplicate name first => "duplicate command '" ++ name ++ "' (already defined by " ++ first ++ ")"

end UnitError

structure LoadFailure where
  path : String
  error : UnitError
  deriving DecidableEq, Repr

structure LoadReport where
  commands : List Command := []
  failures : List LoadFailure := []

def Command.ofText (r : UnitReaders) (format : UnitFormat) (name text : String) :
    Except UnitError Command :=
  match r.read format text with
  | none => .error (.malformed format)
  | some d => (Command.ofDefinition name d).mapError .definition

/-- Reads one unit. As names are texts, every path that a directory lists has one; only a path
without parts, or one that ends in `..`, has none. -/
def loadUnit (r : UnitReaders) (files : FileTree) (path : String) : Except UnitError Command :=
  match Path.stem? path with
  | none => .error (.fileName path)
  | some name =>
    match files.readText path with
    | .error e => .error (.io e)
    | .ok text =>
      match UnitFormat.ofPath? path with
      | none => .error (.format path)
      | some format =>
        (Command.ofText r format name text).map fun c => { c with source := some path }

/-- The paths of a directory's units in order; a file whose path would be too long is none. -/
def unitPaths (dir : String) (entries : List (String × FileEntry)) : List String :=
  let names := (entries.filter fun (_, e) => !e.isDir).map Prod.fst
  let sorted := names.mergeSort (fun a b => decide (a ≤ b))
  (sorted.map (Path.join dir)).filter fun p => (UnitFormat.ofPath? p).isSome && !Path.isTooLong p

def LoadReport.add (report : LoadReport) (path : String) (unit? : Except UnitError Command) :
    LoadReport :=
  let fail (e : UnitError) : LoadReport :=
    { report with failures := report.failures ++ [{ path, error := e }] }
  match unit? with
  | .error e => fail e
  | .ok c =>
    match report.commands.find? fun d => d.key == c.key with
    | some first => fail (.duplicate c.name (first.source.getD ""))
    | none => { report with commands := report.commands ++ [c] }

def loadEntries (r : UnitReaders) (files : FileTree) (dir : String)
    (entries : List (String × FileEntry)) : LoadReport :=
  (unitPaths dir entries).foldl (fun report path => report.add path (loadUnit r files path)) {}

/-- Reads the units of a directory, which is made if it is missing. -/
def loadDirectory (r : UnitReaders) (files : FileTree) (dir : String) :
    Except FileError (LoadReport × FileTree) := do
  let files ← if files.hasPath dir then .ok files else files.makeDirectory dir
  let entries ← files.list dir
  .ok (loadEntries r files dir entries, files)

def LoadReport.isClean (report : LoadReport) : Bool :=
  report.failures.isEmpty

def LoadReport.notices (report : LoadReport) : List Notice :=
  report.failures.map fun _ => .unitSkipped

end CustomCommands
