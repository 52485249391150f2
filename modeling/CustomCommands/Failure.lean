import CustomCommands.Dispatcher

/-!
# Failures

Anything that can go wrong, under one heading for each part of the library.
-/

namespace CustomCommands

inductive Failure where
  | unit (e : UnitError)
  | config (e : ConfigError)
  | rejection (e : Rejection) (messages : Messages)

def Failure.message : Failure → String
  | unit e => "Specification error: " ++ e.message
  | config e => "Configuration error: " ++ e.message
  | rejection e m => "Invocation rejected: " ++ e.message m

end CustomCommands
