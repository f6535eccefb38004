import ReplicatedStore.Text.Decimal

/-!
# Faults of commands
-/

namespace ReplicatedStore

/-- Why a request is no command. -/
inductive CommandError where
  /-- There is no command of that name. -/
  | unknownCommand (name : String)
  /-- The command takes another number of arguments. -/
  | wrongArity (name : String) (expected actual : Nat)
  /-- An argument is not one that the command knows. -/
  | invalidArgument (command argument : String)
  /-- An argument is not an integer. -/
  | notInteger (text : String)
  /-- A time to live is not an integer. -/
  | invalidExpiration (text : String)
  /-- An argument is not UTF-8. -/
  | notText
  /-- An argument is missing. -/
  | missingArgument
  deriving DecidableEq, Repr

/-- What is said about the fault. -/
def CommandError.message : CommandError → String
  | .unknownCommand name => "'" ++ name ++ "' is an unknown command"
  | .wrongArity name expected actual =>
    "poorly formed command " ++ name ++ " - missing arguments. Expected " ++
      Decimal.ofNat expected ++ " got " ++ Decimal.ofNat actual
  | .invalidArgument command argument =>
    "invalid argument '" ++ argument ++ "' for " ++ command
  | .notInteger text => "'" ++ text ++ "' is not an integer value"
  | .invalidExpiration text => "expiration time '" ++ text ++ "' is not an integer"
  | .notText => "invalid UTF-8 string"
  | .missingArgument => "poorly formed command - missing arguments"

end ReplicatedStore
