import CustomCommands.CommandLine
import CustomCommands.Shell
import CustomCommands.Table

/-!
# The program

What each errand prints, on the files it finds. An error is reported with its
causes, the nearest one first.
-/

namespace CustomCommands

/-- An error of the program and its causes. -/
structure Report where
  message : String
  causes : List String := []
  deriving DecidableEq, Repr

namespace Report

def rightAligned (width : Nat) (s : String) : String :=
  String.ofList (List.replicate (width - s.length) ' ') ++ s

/-- A text behind a margin; its further lines stand under the first. -/
def hanging (margin : String) (text : String) : String :=
  let blank := String.ofList (List.replicate margin.length ' ')
  margin ++ Text.replaceAll "\n" ("\n" ++ blank) text

def causeLines (causes : List String) : List String :=
  match causes with
  | [] => []
  | [cause] => ["", "Caused by:", hanging "    " cause]
  | causes =>
    ["", "Caused by:"]
      ++ causes.zipIdx.map fun (cause, i) => hanging (rightAligned 5 (toString i) ++ ": ") cause

def lines (r : Report) : List String :=
  ("Error: " ++ r.message) :: causeLines r.causes

def ofConfig (path : String) (e : ConfigError) : Report where
  message := "Failed to load configuration from " ++ path
  causes := [e.message]

def ofWorld (e : WorldError) : Report where
  message := e.chain.head?.getD ""
  causes := e.chain.drop 1

def ofDirectory (dir : String) (e : FileError) : Report where
  message := "Failed to read commands directory " ++ dir
  causes := [(UnitError.io e).message, e.message]

def ofLoading (dir : String) (e : FileError) : Report where
  message := "Failed to load commands from " ++ dir
  causes := [(Failure.unit (.io e)).message, (UnitError.io e).message, e.message]

end Report

structure Outcome where
  code : Nat := 0
  output : List String := []
  errors : List String := []
  notices : List Notice := []
  /-- The files after it. -/
  files : FileTree

namespace Program

/-- How the program works: on which files, with colours or not, and with identifiers at hand for
players that have none. -/
structure Setting where
  files : FileTree
  coloured : Bool := false
  fresh : Nat → Uuid

namespace Setting

def paint (style : Style) (text : String) (s : Setting) : String :=
  style.paint s.coloured text

def fail (r : Report) (s : Setting) : Outcome :=
  { code := 1, errors := r.lines, files := s.files }

end Setting

/-- Reads the configuration; its relative paths are seen from the file's directory. -/
def configure (path : String) (files : FileTree) : Except Report Config :=
  match Config.loadOrDefault files path with
  | .error e => .error (.ofConfig path e)
  | .ok c => .ok (c.rebase ((Path.parent? path).getD "."))

def failureLine (s : Setting) (f : LoadFailure) : String :=
  Shell.cross s.coloured ++ " " ++ f.path ++ ": " ++ s.paint .faint f.error.message

/-! ## Checking a directory -/

def orDash (s : Option String) : String :=
  s.getD "-"

def tableRow (c : Command) : List String :=
  [c.name, if c.aliases.isEmpty then "-" else ", ".intercalate c.aliases,
    Decimal.shortest c.price.value, orDash c.cooldown, toString c.tree.size,
    orDash (c.source.bind Path.fileName?)]

def table (commands : List Command) : Table where
  header := ["Name", "Aliases", "Cost", "Cooldown", "Nodes", "Source"]
  rows := (commands.mergeSort fun a b => decide (a.name ≤ b.name)).map tableRow

def commandLines (s : Setting) (commands : List Command) : List String :=
  if commands.isEmpty then [s.paint .yellow "No command specifications found"]
  else
    s.paint .success ("Loaded " ++ toString commands.length ++ " command(s)")
      :: (table commands).render

def check (s : Setting) (dir : String) : Outcome :=
  match loadDirectory .standard s.files dir with
  | .error e => s.fail (.ofDirectory dir e)
  | .ok (report, files) =>
    let head := [s.paint .heading ("cmdforge check " ++ dir), ""] ++ commandLines s report.commands
    if report.isClean then
      { output := head ++ ["", s.paint .green "✓" ++ " " ++ s.paint .green "All units loaded"]
        files }
    else
      { code := 1
        output := head ++ [""] ++ report.failures.map (failureLine s)
        errors :=
          ({ message := toString report.failures.length ++ " unit(s) failed to load" } : Report).lines
        notices := report.notices
        files }

/-! ## Inspecting a command -/

/-- Has the command the name, or an alias, when the letters A to Z are taken as a to z? -/
def isCalled (name : String) (c : Command) : Bool :=
  Text.sameIgnoringCase c.name name || c.aliases.any fun a => Text.sameIgnoringCase a name

def fact (label : String) (value : Option String) : List String :=
  (value.map fun v => "  " ++ label ++ ": " ++ v).toList

def describe (s : Setting) (c : Command) : List String :=
  let faint := s.paint .faint
  [s.paint .heading ("/" ++ c.name)]
    ++ (if c.aliases.isEmpty then [] else fact "Aliases" (some (faint (", ".intercalate c.aliases))))
    ++ fact "Permission" (c.permission.map faint)
    ++ (if 0 < c.price.value then fact "Cost" (some (Decimal.shortest c.price.value)) else [])
    ++ fact "Cooldown" c.cooldown
    ++ fact "Usage" (some (faint c.usage))
    ++ [""] ++ c.tree.outline

def inspect (s : Setting) (dir name : String) : Outcome :=
  match loadDirectory .standard s.files dir with
  | .error e => s.fail (.ofDirectory dir e)
  | .ok (report, files) =>
    match report.commands.find? (isCalled name) with
    | none =>
      { s.fail { message := "Command '" ++ name ++ "' not found in " ++ dir } with
        notices := report.notices
        files }
    | some c => { output := describe s c, notices := report.notices, files }

/-! ## Starting a session -/

def openShell (s : Setting) (c : Config) (world : String) (dir : Option String) :
    Except Report (Shell × List String) := do
  let file ← (WorldFile.load s.files world).mapError .ofWorld
  let simulation ← (file.build s.fresh).mapError .ofWorld
  let host : Host Float :=
    { platform := simulation.platform
      ledger := simulation.ledger
      registrar := some {}
      files := s.files }
  let commandsDir := dir.getD c.commandsDir
  let d : Dispatcher Float := { Dispatcher.ofConfig host c with commandsDir }
  let a := d.reload .standard
  match a.value with
  | .error e => .error (.ofLoading commandsDir e)
  | .ok report =>
    let shell : Shell :=
      { dispatcher := a.after
        simulation
        adminPermission := c.adminPermission
        coloured := s.coloured
        pump := { period := c.tickInterval }
        notices := a.notices }
    let title :=
      "cmdforge shell: " ++ toString report.commands.length ++ " command(s) loaded from "
        ++ commandsDir
    .ok
      (shell,
        [s.paint .heading title] ++ report.failures.map (failureLine s)
          ++ [s.paint .faint "Type 'quit' to exit."])

/-! ## Errands -/

def run (s : Setting) (line : CommandLine) (input : String) : Outcome :=
  match configure line.config s.files with
  | .error r => s.fail r
  | .ok c =>
    match line.errand with
    | .check dir => check s (dir.getD c.commandsDir)
    | .inspect dir name => inspect s dir name
    | .shell world dir =>
      match openShell s c world dir with
      | .error r => s.fail r
      | .ok (shell, head) =>
        let (shown, notices) := shell.run (ShellLine.ofInput input)
        { output := head ++ shown
          notices
          files := shell.dispatcher.files }

end Program

end CustomCommands
