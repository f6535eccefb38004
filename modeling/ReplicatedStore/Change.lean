import ReplicatedStore.Text.Bytes

/-!
# Changes

Every accepted change of a store is one command on one database, recorded together with the version
that it produced, so that a replica can run it again.
-/

namespace ReplicatedStore

/-- One recorded change. -/
structure Change where
  /-- The database it works on. -/
  db : String
  /-- The command that makes it. -/
  command : String
  /-- The arguments of the command. -/
  args : List Bytes
  /-- The version it produced; none for a command that replicas run whatever their version is. -/
  version : Option Nat
  deriving DecidableEq, Repr

end ReplicatedStore
