import ReplicatedStore.Text.Bytes
import ReplicatedStore.Text.LowerCase

/-!
# Requests

A request names a command, in small letters, and gives it arguments.
-/

namespace ReplicatedStore

/-- A command with its arguments, as it arrives. -/
structure Request where
  /-- The name of the command. -/
  name : String
  /-- The arguments. -/
  args : List Bytes
  deriving DecidableEq, Repr

/-- A request whose command is written in any letters. -/
def Request.of (name : String) (args : List Bytes) : Request :=
  ⟨Text.lowercase name, args⟩

end ReplicatedStore
