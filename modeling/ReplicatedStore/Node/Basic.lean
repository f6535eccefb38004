import ReplicatedStore.Command.Error
import ReplicatedStore.Config
import ReplicatedStore.Session
import ReplicatedStore.Store.Keys
import ReplicatedStore.Store.Persistence

/-!
# Nodes

A node holds a store, keeps it in files, and serves connections.  What a node meets from outside
while it serves a request is given with the request: the clocks, a random number, and which other
nodes answer.
-/

namespace ReplicatedStore

/-- What a node meets from outside at one moment. -/
structure Surroundings where
  /-- What the clock of the store shows, which never goes back. -/
  now : Nat
  /-- The unix time in milliseconds. -/
  wall : Nat
  /-- A random number. -/
  pick : Nat
  /-- Does the replica that is linked to answer? -/
  answers : Address → Bool
  /-- Does the node take a copy of the store? -/
  takesCopy : Address → Bool

/-- A link to a replica. -/
structure Link where
  /-- Where the replica listens. -/
  replica : Address
  /-- The version that it was sent last. -/
  version : Nat
  deriving DecidableEq, Repr

/-- A node. -/
structure Node where
  /-- Its configuration. -/
  config : Config
  /-- Its store. -/
  store : Store
  /-- The directory of its files. -/
  directory : Directory
  /-- Its replicas. -/
  links : List Link
  /-- Is the store to be saved soon? -/
  savePending : Bool
  /-- Is the node about to stop? -/
  halting : Bool
  /-- When it was started, by the clock of the store. -/
  startedAt : Nat
  /-- How many connections are open. -/
  openConnections : Nat
  /-- How many connections there were. -/
  totalConnections : Nat

/-- Why a request is refused. -/
inductive Refusal where
  /-- The client has not shown the secret. -/
  | notAuthenticated
  /-- The node does not accept changes from clients. -/
  | readOnly
  /-- The node is about to stop. -/
  | shuttingDown
  /-- The request is no command. -/
  | command (fault : CommandError)
  /-- The store refuses it. -/
  | store (fault : StoreError)
  /-- Encoded data cannot be read or written. -/
  | format (fault : FormatError)
  deriving DecidableEq, Repr

/-- What is said about the refusal. -/
def Refusal.message : Refusal → String
  | .notAuthenticated => "Must be authenticated first"
  | .readOnly => "server is operating in slave only mode; redirect to master"
  | .shuttingDown => "server shutting down and command not allowed."
  | .command fault => fault.message
  | .store fault => fault.message
  | .format fault => fault.message

/-- Why a node cannot be started. -/
inductive StartFault where
  /-- The seed file cannot be loaded. -/
  | seed (fault : SeedError)
  /-- The snapshot file cannot be read or written. -/
  | format (fault : FormatError)
  deriving DecidableEq, Repr

namespace Node

variable [Clock]

/-- A node with an empty store. -/
def new (config : Config) (directory : Directory) (now : Nat) : Node where
  config := config
  store := Store.new config.authority
  directory := directory
  links := []
  savePending := false
  halting := false
  startedAt := now
  openConnections := 0
  totalConnections := 0

/-- A new connection to the node. -/
def newSession (n : Node) : Session :=
  Session.new n.config.secret.isNone

/-- The node after a change of its store. -/
def withStore (n : Node) (store : Store) : Node :=
  { n with store }

/-- Asks for the store to be saved soon. -/
def requestSave (n : Node) : Node :=
  { n with savePending := true }

/-- Is the store being saved or to be saved soon? -/
def isSaving (n : Node) : Bool :=
  n.savePending

/-- Writes the snapshot file. -/
def save (n : Node) (around : Surroundings) : Except FormatError Unit × Node :=
  match (n.store.snapshot around.now around.wall).encode with
  | .error fault => (.error fault, n)
  | .ok data =>
    match n.directory.write n.config.snapshotFile data with
    | .error fault => (.error (.file fault), n)
    | .ok directory =>
      (.ok (),
        { n with directory, store := n.store.markSaved around.wall n.store.changeOperations })

/-- Writes the snapshot file if that was asked for.  A save that fails is not tried again by
itself. -/
def saveAsked (n : Node) (around : Surroundings) : Node :=
  if n.savePending then ({ n with savePending := false }.save around).2 else n

/-- Removes the keys whose end has come. -/
def endKeys (n : Node) (now : Nat) : Node :=
  n.withStore (n.store.expirePass now).2

/-- Reads the snapshot file in place of the contents of the store. -/
def load (n : Node) (around : Surroundings) : Except FormatError Node := do
  match n.directory.read n.config.snapshotFile with
  | .error fault => throw (.file fault)
  | .ok data =>
    let snapshot ← Snapshot.decode data
    return n.withStore (n.store.restore around.now around.wall snapshot)

/-- Fills the store of a new node: from the snapshot file if there is one, else from the seed file
if there is one.  Without a snapshot file the first one is written. -/
def recover (n : Node) (around : Surroundings) : Except StartFault Unit × Node :=
  if n.directory.hasFile n.config.snapshotFile then
    match n.load around with
    | .error fault => (.error (.format fault), n)
    | .ok loaded => (.ok (), loaded.withStore (loaded.store.markSaved around.wall 0))
  else
    let seeded : Except SeedError Node :=
      if n.directory.hasFile n.config.seedFile then do
        return n.withStore (n.store.loadSeed (← Seed.load n.directory n.config.seedFile))
      else return n
    match seeded with
    | .error fault => (.error (.seed fault), n)
    | .ok filled =>
      let (result, saved) := filled.save around
      (result.mapError .format, saved)

end Node

end ReplicatedStore
