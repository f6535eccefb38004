import ReplicatedStore.Value

/-!
# Snapshots

The whole contents of a store at one moment: the values of every database, and when keys end.
-/

open Std (ExtTreeMap)

namespace ReplicatedStore

/-- The contents of a store, with the ends of keys in milliseconds of unix time. -/
structure Snapshot where
  /-- The keys of every database. -/
  values : ExtTreeMap String Database
  /-- The ends of keys, by database. -/
  expires : ExtTreeMap String (ExtTreeMap String Nat)
  deriving DecidableEq

end ReplicatedStore
