import CustomCommands.Decimal.Reader
import CustomCommands.Text.Blank
import CustomCommands.Text.Lowercase

/-!
# Shell lines

What a line of the shell asks for. Words are divided by blanks of any kind, a
command starts with a slash, and a line that starts with a number sign is a
comment. In a completion, a blank at the end starts a new argument.
-/

namespace CustomCommands

inductive ShellLine where
  | invoke (who label : String) (args : List String)
  | complete (who label : String) (args : List String)
  | balance (who : String)
  | wait (seconds : Float)
  | quit
  | nothing

inductive ShellError where
  | commandExpected
  | invalidWait (text : String)
  | balanceUsage
  | asUsage
  | tabUsage
  | unknown (keyword : String)
  | unknownPlayer (who : String)
  | economyDisabled
  deriving DecidableEq, Repr

def ShellError.message : ShellError → String
  | commandExpected => "expected /<command>"
  | invalidWait text => "invalid wait '" ++ text ++ "'"
  | balanceUsage => "usage: balance <player>"
  | asUsage => "usage: as <player> /<command> [args...]"
  | tabUsage => "usage: tab <player|console> /<command> [args...]"
  | unknown keyword =>
    "unknown input '" ++ keyword ++ "' (try: as, console, tab, balance, wait, quit)"
  | unknownPlayer who => "no player named '" ++ who ++ "' in the world file"
  | economyDisabled => "economy is disabled in the world file"

namespace ShellLine

open Text (isBlank trim trimStart words)

/-- The first word and what follows the blank behind it. -/
def splitWord (cs : List Char) : List Char × List Char :=
  Text.splitBlank (trimStart cs)

/-- A command with its arguments. If `partly`, a blank at the end starts an empty argument. -/
def readCommand (partly : Bool) (cs : List Char) : Except ShellError (String × List String) :=
  match trimStart cs with
  | '/' :: rest =>
    match (words rest).map String.ofList with
    | [] => .error .commandExpected
    | label :: args =>
      let opensWord := partly && rest.getLast?.any isBlank
      .ok (label, if opensWord then args ++ [""] else args)
  | _ => .error .commandExpected

def isWait (seconds : Float) : Bool :=
  0 ≤ seconds && seconds < 18446744073709551616

def readWait (cs : List Char) : Except ShellError ShellLine :=
  let text := trim cs
  match Decimal.readFloat text with
  | some x => if isWait x then .ok (.wait x) else .error (.invalidWait (String.ofList text))
  | none => .error (.invalidWait (String.ofList text))

def readBalance (cs : List Char) : Except ShellError ShellLine :=
  let who := trim cs
  if who.isEmpty then .error .balanceUsage else .ok (.balance (String.ofList who))

def consoleName : String := "console"

def readInvoke (who : String) (cs : List Char) : Except ShellError ShellLine := do
  let (label, args) ← readCommand false cs
  .ok (.invoke who label args)

def readAs (cs : List Char) : Except ShellError ShellLine :=
  let (who, rest) := splitWord cs
  if who.isEmpty then .error .asUsage else readInvoke (String.ofList who) rest

def readTab (cs : List Char) : Except ShellError ShellLine := do
  let (who, rest) := splitWord cs
  if who.isEmpty then .error .tabUsage
  else
    let (label, args) ← readCommand true rest
    .ok (.complete (String.ofList who) label args)

def readChars (cs : List Char) : Except ShellError ShellLine :=
  let cs := trimStart cs
  if cs.isEmpty || cs.head? == some '#' then .ok .nothing
  else
    let (keyword, rest) := splitWord cs
    let keyword := Text.asciiLower (String.ofList keyword)
    match keyword with
    | "quit" => .ok .quit
    | "exit" => .ok .quit
    | "wait" => readWait rest
    | "balance" => readBalance rest
    | "console" => readInvoke consoleName rest
    | "as" => readAs rest
    | "tab" => readTab rest
    | _ => .error (.unknown keyword)

def read (line : String) : Except ShellError ShellLine :=
  readChars line.toList

/-! ## Lines of an input -/

def dropReturn (cs : List Char) : List Char :=
  if cs.getLast? == some '\r' then cs.dropLast else cs

/-- Cuts an input at its line ends; `current` holds the line begun, last character first. -/
def split (current : List Char) : List Char → List (List Char)
  | [] => if current.isEmpty then [] else [current.reverse]
  | c :: cs =>
    if c = '\n' then dropReturn current.reverse :: split [] cs else split (c :: current) cs

def ofInput (input : String) : List String :=
  (split [] input.toList).map String.ofList

end ShellLine

end CustomCommands
