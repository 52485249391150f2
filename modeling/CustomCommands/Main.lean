import CustomCommands.Program

/-!
# The command line

Reads the files that the program is told of, lets the program work on them, and
prints what it says. Beside the files that the arguments name, these are the
paths that the variable `CMDFORGE_FILES` holds, one on a line. A session of the
shell is answered line by line, and time passes for it as it passes outside.
-/

namespace CustomCommands.Main

/-- What stands under a path: a file, or a directory, which the system does not read as one. -/
def look (path : String) : IO (Option FileEntry) := do
  try
    let bytes ← IO.FS.readBinFile path
    return some (.file (String.fromUTF8? bytes))
  catch
    | .inappropriateType _ 21 _ => return some (.dir [])
    | .permissionDenied .. => return some (.file none)
    | _ => return none

/-- The files under the paths and on the way to them, seen from the current directory. -/
def gather (paths : List String) : IO FileTree := do
  let here := (Path.pieces (toString (← IO.currentDir)).toList).foldl FileTree.enter []
  let mut files : FileTree := { here, root := FileEntry.put (.dir []) here (.dir []) }
  for path in paths.flatMap Path.beginnings do
    if let some entry ← look path then
      if !(files.hasPath path) then files := files.write path entry
  return files

def toldPaths : IO (List String) := do
  let told := (← IO.getEnv "CMDFORGE_FILES").getD ""
  return (told.splitOn "\n").filter fun p => !p.isEmpty

/-- Makes a directory that is there after the program and was not there before. -/
def settle (dir : String) (files : FileTree) : IO Unit := do
  if (← look dir).isNone && files.hasPath dir then IO.FS.createDirAll dir

def printLines (out : IO.FS.Stream) (lines : List String) : IO Unit := do
  for line in lines do
    out.putStrLn line
  out.flush

def logLines (level : String) (notices : List Notice) : List String :=
  (notices.filter fun n => n.isError || level != "error").map Notice.line

partial def converse (level : String) (paths : List String) (input : IO.FS.Stream)
    (x : Shell) : IO Unit := do
  let before ← IO.monoMsNow
  let line ← input.getLine
  let x := x.elapse ((← IO.monoMsNow) - before)
  match ShellLine.ofInput line with
  | [] => printLines (← IO.getStdout) x.flush.1
  | line :: _ =>
    let files ← gather paths
    let r := { x with dispatcher := { x.dispatcher with files } }.handle line
    printLines (← IO.getStdout) r.lines
    let x ←
      match r.next with
      | .wait ms => do
        IO.sleep (UInt32.ofNat (min ms 4294967295))
        pure (r.session.elapse ms)
      | _ => pure r.session
    printLines (← IO.getStderr) (logLines level x.notices)
    let (shown, x) := x.flush
    printLines (← IO.getStdout) shown
    if r.next != .quit then converse level paths input x

def work (line : CommandLine) : IO UInt32 := do
  let terminal ← (← IO.getStdout).isTty
  let coloured :=
    Terminal.wantsColour (← IO.getEnv "CLICOLOR_FORCE") (← IO.getEnv "NO_COLOR")
      (← IO.getEnv "CLICOLOR") terminal
  let base := (← IO.getRandomBytes 16).foldl (fun n b => n * 256 + b.toNat) 0
  let setting (files : FileTree) : Program.Setting :=
    { files, coloured, fresh := fun i => .ofRandom (base + i) }
  let finish (o : Outcome) (dirs : List String) : IO UInt32 := do
    printLines (← IO.getStderr) (logLines line.logLevel o.notices)
    printLines (← IO.getStdout) o.output
    printLines (← IO.getStderr) o.errors
    for dir in dirs do
      settle dir o.files
    return UInt32.ofNat o.code
  match Program.configure line.config (← gather [line.config]) with
  | .error r => finish ((setting {}).fail r) []
  | .ok config =>
    let paths := [line.config, config.usercache] ++ (← toldPaths) ++ line.errand.paths
      ++ [config.commandsDir]
    let setting := setting (← gather paths)
    match line.errand with
    | .shell world dir =>
      match Program.openShell setting config world dir with
      | .error r => finish (setting.fail r) []
      | .ok (shell, head) =>
        settle (dir.getD config.commandsDir) shell.dispatcher.files
        printLines (← IO.getStderr) (logLines line.logLevel shell.notices)
        printLines (← IO.getStdout) head
        converse line.logLevel paths (← IO.getStdin) { shell with notices := [] }
        return 0
    | .check dir => finish (Program.run setting line "") [dir.getD config.commandsDir]
    | .inspect dir _ => finish (Program.run setting line "") [dir]

end CustomCommands.Main

def main (args : List String) : IO UInt32 := do
  match CustomCommands.CommandLine.read? args with
  | some line => CustomCommands.Main.work line
  | none =>
    CustomCommands.Main.printLines (← IO.getStderr) CustomCommands.CommandLine.usage
    return 2
