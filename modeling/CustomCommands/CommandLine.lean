/-!
# Command lines

The arguments of the program: options, an errand, and the errand's own options
and words. The level of the log and the configuration may be given before the
errand and behind it; what stands behind it counts. On either side an option is
given once, and its value follows it or is joined to it. Two hyphens end the
options, and what follows them are words.
-/

namespace CustomCommands

inductive Errand where
  /-- Loads a directory, by default the configured one, and reports. -/
  | check (dir : Option String)
  /-- Prints one command. -/
  | inspect (dir name : String)
  /-- Runs a simulated host. -/
  | shell (world : String) (dir : Option String)
  deriving DecidableEq, Repr

def Errand.paths : Errand → List String
  | check dir => dir.toList
  | inspect dir _ => [dir]
  | shell world dir => world :: dir.toList

structure CommandLine where
  logLevel : String := "warn"
  config : String := "cmdforge.toml"
  errand : Errand
  deriving DecidableEq, Repr

namespace CommandLine

inductive Switch where
  | logLevel
  | config
  | world
  | dir
  deriving DecidableEq, Repr

def Switch.ofLong? (name : List Char) : Option Switch :=
  match String.ofList name with
  | "log-level" => some .logLevel
  | "config" => some .config
  | "world" => some .world
  | "dir" => some .dir
  | _ => none

def Switch.ofShort? : Char → Option Switch
  | 'l' => some .logLevel
  | 'c' => some .config
  | 'w' => some .world
  | 'd' => some .dir
  | _ => none

/-- The options that belong to the program itself. -/
def Switch.common : List Switch := [.logLevel, .config]

/-- The options that may stand behind an errand's name. -/
def Switch.behind (errand : String) : List Switch :=
  if errand == "shell" then common ++ [.world, .dir] else common

/-- The name of a level is any text, a path is not empty. -/
def Switch.accepts (value : String) : Switch → Bool
  | logLevel => true
  | config | world | dir => !value.isEmpty

/-- The options and words read so far, on one side of the errand's name. -/
structure Reading where
  values : List (Switch × String) := []
  words : List String := []

namespace Reading

def get? (s : Switch) (r : Reading) : Option String :=
  (r.values.find? fun (t, _) => t = s).map Prod.snd

def set? (s : Switch) (value : String) (r : Reading) : Option Reading :=
  if (r.get? s).isSome || !s.accepts value then none
  else some { r with values := r.values ++ [(s, value)] }

/-- Can an argument be a word or an option's value? -/
def isWord (arg : String) : Bool :=
  arg.toList.head? != some '-' || arg == "-"

/-- The option of an argument, and the value that is joined to it. -/
def switch? (arg : List Char) : Option (Switch × Option String) :=
  match arg with
  | '-' :: '-' :: rest =>
    let name := rest.takeWhile (· != '=')
    let value := (rest.dropWhile (· != '=')).drop 1
    (Switch.ofLong? name).map fun s =>
      (s, if rest.contains '=' then some (String.ofList value) else none)
  | '-' :: c :: rest =>
    (Switch.ofShort? c).map fun s =>
      match rest with
      | [] => (s, none)
      | '=' :: value => (s, some (String.ofList value))
      | value => (s, some (String.ofList value))
  | _ => none

/-- Reads options and the words among them. With `head` only the options before the first word are
read, and it is left with what follows it. -/
def read (allowed : List Switch) (head : Bool) (r : Reading) :
    List String → Option (Reading × List String)
  | [] => some (r, [])
  | arg :: rest =>
    if isWord arg then
      if head then some (r, arg :: rest)
      else { r with words := r.words ++ [arg] }.read allowed head rest
    else
      match (switch? arg.toList).filter fun (s, _) => allowed.contains s, rest with
      | some (s, some value), rest =>
        match r.set? s value with
        | some r => r.read allowed head rest
        | none => none
      | some (s, none), value :: rest =>
        match if isWord value then r.set? s value else none with
        | some r => r.read allowed head rest
        | none => none
      | _, _ => none

def ofArguments? (allowed : List Switch) (args : List String) : Option Reading := do
  let (r, _) ← Reading.read allowed false {} (args.takeWhile (· != "--"))
  some { r with words := r.words ++ (args.dropWhile (· != "--")).drop 1 }

end Reading

def errand? (name : String) (r : Reading) : Option Errand :=
  match name, r.words with
  | "check", [] => some (.check none)
  | "check", [dir] => if dir.isEmpty then none else some (.check (some dir))
  | "inspect", [dir, command] => if dir.isEmpty then none else some (.inspect dir command)
  | "shell", [] => (r.get? .world).map fun world => .shell world (r.get? .dir)
  | _, _ => none

def read? (args : List String) : Option CommandLine := do
  let (before, rest) ← Reading.read Switch.common true {} args
  let name ← rest.head?
  let behind ← Reading.ofArguments? (Switch.behind name) rest.tail
  let errand ← errand? name behind
  let value (s : Switch) (default_ : String) : String :=
    ((behind.get? s).or (before.get? s)).getD default_
  some
    { logLevel := value .logLevel "warn"
      config := value .config "cmdforge.toml"
      errand }

def usage : List String :=
  ["usage: cmdforge [<option>...] check [<dir>]",
    "       cmdforge [<option>...] inspect <dir> <name>",
    "       cmdforge [<option>...] shell --world <file> [--dir <dir>]",
    "options: --log-level <level>, --config <file>",
    "CMDFORGE_FILES holds the paths of the units, one on a line"]

end CommandLine

end CustomCommands
