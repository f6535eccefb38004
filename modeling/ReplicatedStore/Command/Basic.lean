import ReplicatedStore.Address
import ReplicatedStore.Command.Query
import ReplicatedStore.Store.Operation

/-!
# Commands

What a request asks for, once its arguments are read.
-/

namespace ReplicatedStore

/-- A command with its arguments. -/
inductive Command where
  /-- Change the database of the session. -/
  | edit (op : Operation)
  /-- Subtract from an integer. -/
  | decrement (key : String) (amount : Int)
  /-- Answer from the database of the session. -/
  | ask (q : Query)
  /-- Work on another database from now on. -/
  | select (db : String)
  /-- Answer that the node is there. -/
  | ping
  /-- Show the secret. -/
  | auth (password : String)
  /-- Tell how the node is. -/
  | info
  /-- Write the snapshot file now. -/
  | save
  /-- Write the snapshot file soon. -/
  | saveLater
  /-- Tell when the snapshot file was written last. -/
  | lastSave
  /-- Stop the node. -/
  | shutdown
  /-- Close the connection. -/
  | quit
  /-- Tell the version of the store. -/
  | version
  /-- Make the node at an address a replica of this one. -/
  | attach (replica : Address)
  /-- Run a recorded change, which comes encoded. -/
  | replay (envelope : Bytes)
  /-- Put a snapshot, which comes encoded, in place of the whole store. -/
  | replaceAll (version : Nat) (data : Bytes)
  deriving DecidableEq, Repr

end ReplicatedStore
