import ReplicatedStore.Store.Basic

/-!
# Sessions

What a node remembers of one connection.
-/

namespace ReplicatedStore

/-- The state of one connection. -/
structure Session where
  /-- The database that commands work on. -/
  db : String
  /-- May the client run commands? -/
  authenticated : Bool
  /-- Is the connection to be closed after the reply? -/
  closing : Bool
  /-- Does the session run recorded changes? -/
  replaying : Bool
  deriving DecidableEq, Repr

namespace Session

/-- A new connection. -/
def new (authenticated : Bool) : Session :=
  ⟨Store.defaultDatabase, authenticated, false, false⟩

/-- The session in which a recorded change of a database runs. -/
def replay (db : String) : Session :=
  ⟨db, true, false, true⟩

end Session

end ReplicatedStore
