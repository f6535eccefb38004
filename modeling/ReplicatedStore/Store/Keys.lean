import ReplicatedStore.Store.Basic

/-!
# Keys

Removing, renaming and moving keys, and giving them an end.  A key takes its value along when it is
renamed or moved, but neither name keeps a deadline.
-/

open Std (ExtTreeMap)

namespace ReplicatedStore.Store

/-- Removes keys one after the other and counts those that existed. -/
def discardAll (s : Store) (db : String) : List String → Nat × Store
  | [] => (0, s)
  | key :: rest =>
    let (count, left) := (s.discard db key).discardAll db rest
    (count + (s.has db key).toNat, left)

/-- Removes keys and answers how many of them existed. -/
def remove (s : Store) (db : String) (keys : List String) : Nat × Store :=
  let (count, left) := s.discardAll db keys
  (count, left.commit db "del" (keys.map Bytes.ofText))

/-- Puts the value of one key under another name. -/
def transfer (s : Store) (db source target : String) (value : Value) : Store :=
  (((s.drop db source).clearDeadline db source).clearDeadline db target).put db target value

/-- Renames a key; the new name loses what it held. -/
def rename (s : Store) (db source target : String) : Attempt Unit :=
  if source = target then (.error .sameName, s)
  else match s.value? db source with
    | none => (.error (.missing source), s.ensure db)
    | some value =>
      (.ok (), (s.transfer db source target value).commit db "rename"
        [Bytes.ofText source, Bytes.ofText target])

/-- Renames a key if the new name is free, and answers whether it was.  A taken name counts as a
change too. -/
def renameNew (s : Store) (db source target : String) : Attempt Bool :=
  let args := [Bytes.ofText source, Bytes.ofText target]
  if s.has db target then (.ok false, s.commit db "renamenx" args)
  else if source = target then (.error .sameName, s)
  else match s.value? db source with
    | none => (.error (.missing source), s.ensure db)
    | some value =>
      -- a name that is free has no deadline to lose
      (.ok true, ((s.discard db source).put db target value).commit db "renamenx" args)

/-- Moves a key into another database, where its name must be free. -/
def move (s : Store) (db key target : String) : Attempt Unit :=
  let ready := s.ensure target
  match s.value? db key with
  | none => (.error (.notKnown key db), ready)
  | some value =>
    if ready.has target key then (.error (.alreadyExists key target), ready)
    else
      (.ok (), ((ready.discard db key).put target key value).commit db "move"
        [Bytes.ofText key, Bytes.ofText target])

/-- Gives a key a time to live in seconds, counted from `now`.  A key that has one keeps it, and
this counts as a change too. -/
def expire [Clock] (s : Store) (now : Nat) (db key : String) (seconds : Int) : Attempt Unit :=
  if s.has db key then
    let timed :=
      if (s.deadline? db key).isSome then s
      else s.setDeadline db key (deadlineAfter now (seconds.toNat * 1000))
    (.ok (), timed.commit db "expire" [Bytes.ofText key, Bytes.ofText (Decimal.ofInt seconds)])
  else (.error .noSuchKey, s)

/-- The seconds that a key has left at `now`, whole milliseconds rounded up; -1 when it has no
deadline. -/
def timeToLive [Clock] (s : Store) (now : Nat) (db key : String) : Int :=
  match s.deadline? db key with
  | some deadline => Decimal.asSigned64 ((Clock.wholeMillis (deadline - now) + 999) / 1000)
  | none => -1

/-- The names of a database that a test picks, in their order and joined by blanks. -/
def matchingKeys (s : Store) (db : String) (test : String → Bool) : String :=
  " ".intercalate (((s.databases[db]?.getD ∅).keys).filter test)

/-- A key of a database, chosen by `pick`. -/
def randomKey? (s : Store) (pick : Nat) (db : String) : Option String :=
  let keys := (s.databases[db]?.getD ∅).keys
  keys[pick % keys.length]?

/-- Removes every key of a database. -/
def flush (s : Store) (db : String) : Store :=
  { s with
    databases := s.databases.insert db ∅
    agenda := s.agenda.clearDatabase db }.commit db "flushdb" []

/-- Removes every database but the one that always exists, which is left without keys.  The change
is recorded for the database `db`. -/
def flushAll (s : Store) (db : String) : Store :=
  { s with
    databases := ExtTreeMap.ofList [(defaultDatabase, ∅)]
    agenda := Agenda.empty }.commit db "flushall" []

/-- Removes one key whose deadline has passed.  The authority records this as a change; elsewhere
the change arrives from the authority. -/
def endKey (s : Store) (ending : Ending) : Store :=
  if s.authority then (s.remove ending.db [ending.key]).2 else s.discard ending.db ending.key

/-- Removes the keys whose deadline is not after `now`, in the order in which they end, and answers
the first deadline that is still to come. -/
def expirePass (s : Store) (now : Nat) : Option Nat × Store :=
  let left := (s.agenda.due now).foldl endKey s
  (left.agenda.next?, left)

end ReplicatedStore.Store
