import ReplicatedStore.Change
import ReplicatedStore.Value
import ReplicatedStore.Store.Agenda
import ReplicatedStore.Store.Error

/-!
# The store

A store holds named databases, the deadlines of their keys, and a version that counts the changes it
went through.  Every change is committed: it raises the version by one and, while the journal
records, is kept there for replicas.  This module holds the type, what can be looked up in it, and
the few steps that all operations are made of; `Store.commit` is the only one that raises the
version one by one.

The version is a word of 64 bits (`Store.version`).  What it is a word of, the count of changes
itself, has no end: `Store.revision`.  The two are the same number until the version has taken all
its values.  Recorded changes carry the count, which becomes a word where they are encoded.

Deadlines are moments of a clock that counts ticks from some moment on.  Times to live and times of
files are told in milliseconds, and `Clock` says how many ticks these have.

An operation that can be refused answers with the fault or its result beside the store it leaves
(`Attempt`), because a refused operation may have created a database on its way.
-/

open Std (ExtTreeMap ExtTreeSet)

namespace ReplicatedStore

/-- How finely the clock of a store counts. -/
class Clock where
  /-- The ticks of a millisecond. -/
  perMilli : Nat
  /-- It has one at least. -/
  perMilli_pos : 0 < perMilli

namespace Clock

/-- A clock that counts milliseconds.  It is the one that is meant where none is named. -/
instance millis : Clock := ⟨1, Nat.one_pos⟩

/-- A clock that counts nanoseconds. -/
@[reducible]
def nanos : Clock := ⟨1000000, Nat.succ_pos 999999⟩

/-- The ticks of so many milliseconds. -/
def ticks [Clock] (millis : Nat) : Nat :=
  millis * perMilli

/-- The milliseconds that have passed whole after so many ticks. -/
def wholeMillis [Clock] (ticks : Nat) : Nat :=
  ticks / perMilli

end Clock

/-- The changes recorded for replicas and not yet taken. -/
structure Journal where
  /-- Is anything recorded? -/
  recording : Bool
  /-- The recorded changes, the oldest first. -/
  pending : List Change
  deriving DecidableEq

/-- A whole store. -/
structure Store where
  /-- The keys of every database that exists. -/
  databases : ExtTreeMap String Database
  /-- When keys end. -/
  agenda : Agenda
  /-- How many changes the store went through, counted on without end. -/
  revision : Nat
  /-- How many commands and loads were counted. -/
  operations : Nat
  /-- How many change operations were counted. -/
  changeOperations : Nat
  /-- The count of change operations that the last save holds. -/
  saveMark : Nat
  /-- The unix time of the last save in seconds, zero before the first. -/
  lastSave : Nat
  /-- Did anything change since the flag was last taken? -/
  changed : Bool
  /-- Does the store accept writes of its own and record the ends of keys? -/
  authority : Bool
  /-- The changes recorded for replicas. -/
  journal : Journal

/-- Which end of a list an operation works on. -/
inductive ListEnd where
  /-- The first item. -/
  | head
  /-- The last item. -/
  | tail
  deriving DecidableEq, Repr

/-- The answer of an operation beside the store it leaves. -/
abbrev Attempt (α : Type) := Except StoreError α × Store

namespace Store

/-- The database that always exists. -/
def defaultDatabase : String := "0"

/-- A store without keys. -/
def new (authority : Bool) : Store where
  databases := ExtTreeMap.ofList [(defaultDatabase, ∅)]
  agenda := Agenda.empty
  revision := 0
  operations := 0
  changeOperations := 0
  saveMark := 0
  lastSave := 0
  changed := false
  authority := authority
  journal := ⟨false, []⟩

/-! ## Looking up -/

/-- What a key holds. -/
def value? (s : Store) (db key : String) : Option Value :=
  s.databases[db]?.bind (·[key]?)

/-- The type of what a key holds. -/
def typeOf (s : Store) (db key : String) : ValueType :=
  ((s.value? db key).map Value.type).getD .none

/-- Does the key exist? -/
def has (s : Store) (db key : String) : Bool :=
  (s.value? db key).isSome

/-- How many keys a database holds. -/
def size (s : Store) (db : String) : Nat :=
  (s.databases[db]?.map ExtTreeMap.size).getD 0

/-- The string that a key holds. -/
def get? (s : Store) (db key : String) : Option Bytes :=
  match s.value? db key with
  | some (.string data) => some data
  | _ => none

/-- The list that a key holds, none when the key does not exist. -/
def list? (s : Store) (db key : String) : Except StoreError (Option (List Bytes)) :=
  match s.value? db key with
  | some (.list items) => .ok (some items)
  | some _ => .error .wrongType
  | none => .ok none

/-- The set that a key holds, none when the key does not exist. -/
def set? (s : Store) (db key : String) : Except StoreError (Option Members) :=
  match s.value? db key with
  | some (.set members) => .ok (some members)
  | some _ => .error .wrongType
  | none => .ok none

/-- The deadline of a key. -/
def deadline? (s : Store) (db key : String) : Option Nat :=
  s.agenda.deadline? db key

/-- The octets of all keys and values. -/
def usedMemory (s : Store) : Nat :=
  s.databases.foldl (fun total _ keys =>
    keys.foldl (fun total key value => total + key.utf8ByteSize + value.size) total) 0

/-- The version, which is the revision in a word of 64 bits: after the last number of that size it
starts again at zero. -/
def version (s : Store) : Nat :=
  s.revision % 0x10000000000000000

/-- How many change operations were counted since the last save. -/
def changesSinceSave (s : Store) : Nat :=
  s.changeOperations - s.saveMark

/-! ## Steps -/

/-- Records a change for replicas while the journal records. -/
def record (s : Store) (c : Change) : Store :=
  if s.journal.recording then
    { s with journal := { s.journal with pending := s.journal.pending ++ [c] } }
  else s

/-- Counts a change that the command made to the database, and records it with the revision it
produced. -/
def commit (s : Store) (db command : String) (args : List Bytes) : Store :=
  { s with
    revision := s.revision + 1
    changeOperations := s.changeOperations + 1
    changed := true }.record ⟨db, command, args, some (s.revision + 1)⟩

/-- Makes the database exist. -/
def ensure (s : Store) (db : String) : Store :=
  { s with databases := s.databases.insertIfNew db ∅ }

/-- Puts a value under a key, in a database that exists from then on. -/
def put (s : Store) (db key : String) (value : Value) : Store :=
  { s with databases := s.databases.alter db fun keys => some ((keys.getD ∅).insert key value) }

/-- Takes a key out of a database. -/
def drop (s : Store) (db key : String) : Store :=
  { s with databases := s.databases.modify db (·.erase key) }

/-- Takes away the deadline of a key. -/
def clearDeadline (s : Store) (db key : String) : Store :=
  { s with agenda := s.agenda.clear db key }

/-- Takes a key out with its deadline, without counting a change. -/
def discard (s : Store) (db key : String) : Store :=
  (s.clearDeadline db key).drop db key

/-- The longest time to live in milliseconds: a hundred years of 365 days. -/
def longestLife : Nat := 100 * 365 * 86400 * 1000

/-- The deadline after the given time to live in milliseconds, which is cut to the longest one. -/
def deadlineAfter [Clock] (now life : Nat) : Nat :=
  now + Clock.ticks (min life longestLife)

/-- Gives a key a deadline. -/
def setDeadline (s : Store) (db key : String) (deadline : Nat) : Store :=
  { s with agenda := s.agenda.set db key deadline }

/-! ## Bookkeeping -/

/-- Counts a command. -/
def recordOperation (s : Store) : Store :=
  { s with operations := s.operations + 1 }

/-- Records a command that replicas run whatever their version is. -/
def journalUnversioned (s : Store) (db command : String) : Store :=
  s.record ⟨db, command, [], none⟩

/-- Whether anything changed since the last call, which clears the flag. -/
def takeChanged (s : Store) : Bool × Store :=
  (s.changed, { s with changed := false })

/-- Turns recording on or off. -/
def setRecording (s : Store) (recording : Bool) : Store :=
  { s with journal := { s.journal with recording } }

/-- Takes the recorded changes out of the journal. -/
def takeJournal (s : Store) : List Change × Store :=
  (s.journal.pending, { s with journal := { s.journal with pending := [] } })

/-- Makes the database exist; this counts as a change also when it exists already. -/
def select (s : Store) (db : String) : Store :=
  (s.ensure db).commit db "select" [Bytes.ofText db]

end Store

end ReplicatedStore
