import CustomCommands.Failure

/-!
# The administrative command

It reloads the commands. Every reply is one or more messages to the sender.
-/

namespace CustomCommands.Admin

def reloadWord : String := "reload"

def usage (label : String) : List String :=
  ["&6--- Custom Commands Help ---",
    "&e/" ++ label ++ " reload&7 - Reloads all custom commands from files."]

def skippedLine (count : Nat) : String :=
  "&e" ++ toString count ++ " specification file(s) could not be loaded; see the server log."

variable {N : Type}

/-- Reloads the commands; the result is what to say of it. -/
def reload (r : UnitReaders) (d : Dispatcher N) : Act N (List String) :=
  let a := d.reload r
  match a.value with
  | .error e =>
    { a with
      value := ["&cReload failed: " ++ (Failure.unit (.io e)).message]
      notices := a.notices ++ [.reloadFailed] }
  | .ok report =>
    if report.isClean then { a with value := [d.messages.reloaded] }
    else
      { a with
        value := [d.messages.reloaded, skippedLine report.failures.length]
        notices := a.notices ++ [.unitsSkipped] }

def asksReload : List String → Bool
  | arg :: _ => Text.sameIgnoringCase arg reloadWord
  | [] => false

/-- Handles a call; the result is what the sender was sent. -/
def handle (r : UnitReaders) (permission : String) (s : Sender) (label : String)
    (args : List String) (d : Dispatcher N) : Act N (List String) :=
  let a : Act N (List String) :=
    if !s.has permission then { value := [d.messages.noPermission], after := d }
    else if asksReload args then reload r d
    else { value := usage label, after := d }
  let lines := a.value.map Colour.translate
  { a with value := lines, effects := lines.map fun l => .message s.name l }

def complete (permission : String) (s : Sender) (args : List String) : List String :=
  match args with
  | [partly] =>
    if s.has permission && Text.startsWith reloadWord.toList (Text.lower partly).toList then
      [reloadWord]
    else []
  | _ => []

end CustomCommands.Admin
