import ReplicatedStore.Seed
import ReplicatedStore.Snapshot.Encoding
import ReplicatedStore.Store.Basic

/-!
# Snapshots and seeds of a store

A snapshot gives the ends of keys in unix time, so that they hold after a restart and on another
machine: a key keeps the time it has left at the moment of the snapshot, less what passed since.
`now` is what the clock of the store shows and `wall` the unix time at the same moment in
milliseconds.  A snapshot holds whole milliseconds only, so a key that has less than one left is
kept as one that has ended.
-/

open Std (ExtTreeMap)

namespace ReplicatedStore.Store

variable [Clock]

/-- The unix time of a deadline.  What is left beyond whole milliseconds is cut off. -/
def wallTime (now wall deadline : Nat) : Nat :=
  wall + Clock.wholeMillis (deadline - now)

/-- The contents of the store.  Databases without deadlines are left out of the ends. -/
def snapshot (s : Store) (now wall : Nat) : Snapshot where
  values := s.databases
  expires := (s.agenda.deadlines.filter fun _ keys => !keys.isEmpty).map fun _ keys =>
    keys.map fun _ deadline => wallTime now wall deadline

/-- The ends of a snapshot, each with its database and key. -/
def endsOf (snapshot : Snapshot) : List Ending :=
  snapshot.expires.toList.flatMap fun (db, keys) =>
    keys.toList.map fun (key, deadline) => ⟨deadline, db, key⟩

/-- Gives a key the end that a snapshot has for it: a key whose end has passed is taken out, one
that does not exist is left aside. -/
def restoreEnd (now wall : Nat) (s : Store) (ending : Ending) : Store :=
  if !s.has ending.db ending.key then s
  else if ending.deadline ≤ wall then s.discard ending.db ending.key
  else s.setDeadline ending.db ending.key (deadlineAfter now (ending.deadline - wall))

/-- Puts a snapshot in place of the contents of the store. -/
def restore (s : Store) (now wall : Nat) (snapshot : Snapshot) : Store :=
  let bare := { s with databases := snapshot.values, agenda := Agenda.empty }.ensure defaultDatabase
  ((endsOf snapshot).foldl (restoreEnd now wall) bare).recordOperation

/-- Puts an encoded snapshot in place of the contents of the store, and takes the version it was
made at. -/
def replace (s : Store) (now wall version : Nat) (data : Bytes) : Attempt Unit :=
  match Snapshot.decode data with
  | .error e => (.error (.snapshot e), s)
  | .ok snapshot =>
    (.ok (), { s.restore now wall snapshot with revision := version, changed := true })

/-- The version of the store and its encoded contents, as a new replica gets them. -/
def dump (s : Store) (now wall : Nat) : Except FormatError (Nat × Bytes) := do
  return (s.revision, ← (s.snapshot now wall).encode)

/-- Notes that the changes counted by `mark` are saved. -/
def markSaved (s : Store) (wall mark : Nat) : Store :=
  { s with lastSave := wall / 1000, saveMark := mark, changed := false }

/-- Stores one thing that a seed file says. -/
def loadEntry (s : Store) : SeedEntry → Store
  | .select db => s.ensure db
  | .value db key data =>
    let written := (s.clearDeadline db key).put db key (.string data)
    { written with changeOperations := written.changeOperations + 1 }

/-- Stores what a seed file says.  The whole file raises the version by one. -/
def loadSeed (s : Store) (entries : List SeedEntry) : Store :=
  let loaded := entries.foldl loadEntry s
  { loaded with changed := true, revision := loaded.revision + 1 }

end ReplicatedStore.Store
