import ReplicatedStore.Store.Keys
import ReplicatedStore.Store.Lists
import ReplicatedStore.Store.Sets
import ReplicatedStore.Store.Strings

/-!
# Operations

All that clients can change in a store, as one type.  An operation works on one database and is
given the clock, for ends of keys, and a number that picks a member at random; `Operation.perform`
carries it out.
-/

namespace ReplicatedStore

/-- A change of a database. -/
inductive Operation where
  /-- Write a string. -/
  | set (key : String) (data : Bytes)
  /-- Write a string and answer the one before. -/
  | getSet (key : String) (data : Bytes)
  /-- Write a string if the key does not exist. -/
  | setNew (key : String) (data : Bytes)
  /-- Add to an integer. -/
  | add (key : String) (amount : Int)
  /-- Remove keys. -/
  | remove (keys : List String)
  /-- Rename a key. -/
  | rename (source target : String)
  /-- Rename a key if the new name is free. -/
  | renameNew (source target : String)
  /-- Move a key to another database. -/
  | move (key target : String)
  /-- Give a key a time to live. -/
  | expire (key : String) (seconds : Int)
  /-- Remove all keys of the database. -/
  | flush
  /-- Remove all keys of all databases. -/
  | flushAll
  /-- Make the database exist. -/
  | select
  /-- Add an item to a list. -/
  | push (key : String) (item : Bytes) (side : ListEnd)
  /-- Keep a part of a list. -/
  | trim (key : String) (start stop : Int)
  /-- Replace an item of a list. -/
  | setItem (key : String) (index : Int) (item : Bytes)
  /-- Remove occurrences of an item from a list. -/
  | removeItems (key : String) (count : Int) (item : Bytes)
  /-- Take an item off a list. -/
  | pop (key : String) (side : ListEnd)
  /-- Add a member to a set. -/
  | addMember (key : String) (member : Bytes)
  /-- Remove a member from a set. -/
  | removeMember (key : String) (member : Bytes)
  /-- Take any member off a set. -/
  | popMember (key : String)
  /-- Move a member from one set to another. -/
  | moveMember (source target : String) (member : Bytes)
  /-- Store what an operation of set algebra finds. -/
  | combineInto (op : Store.SetAlgebra) (target : String) (keys : List String)
  deriving DecidableEq, Repr

/-- What an operation answers. -/
inductive Answer where
  /-- It is done. -/
  | done
  /-- Whether it had an effect. -/
  | flag (value : Bool)
  /-- How many keys or items it took away. -/
  | count (n : Nat)
  /-- The integer it made. -/
  | number (value : Int)
  /-- The string or item it found, if there was one. -/
  | data (found : Option Bytes)
  deriving DecidableEq, Repr

namespace Operation

/-- An operation that is always carried out. -/
def always {α : Type} (answer : α → Answer) (result : α × Store) : Attempt Answer :=
  (.ok (answer result.1), result.2)

/-- An operation that may be refused. -/
def maybe {α : Type} (answer : α → Answer) (result : Attempt α) : Attempt Answer :=
  (result.1.map answer, result.2)

/-- Carries the operation out on a database. -/
def perform [Clock] (op : Operation) (s : Store) (now pick : Nat) (db : String) : Attempt Answer :=
  match op with
  | .set key data => (.ok .done, s.set db key data)
  | .getSet key data => always .data (s.getSet db key data)
  | .setNew key data => always .flag (s.setNew db key data)
  | .add key amount => maybe .number (s.add db key amount)
  | .remove keys => always .count (s.remove db keys)
  | .rename source target => maybe (fun _ => .done) (s.rename db source target)
  | .renameNew source target => maybe .flag (s.renameNew db source target)
  | .move key target => maybe (fun _ => .done) (s.move db key target)
  | .expire key seconds => maybe (fun _ => .done) (s.expire now db key seconds)
  | .flush => (.ok .done, s.flush db)
  | .flushAll => (.ok .done, s.flushAll db)
  | .select => (.ok .done, s.select db)
  | .push key item side => maybe (fun _ => .done) (s.push db key item side)
  | .trim key start stop => maybe (fun _ => .done) (s.trim db key start stop)
  | .setItem key index item => maybe (fun _ => .done) (s.setItem db key index item)
  | .removeItems key count item => maybe .count (s.removeItems db key count item)
  | .pop key side => maybe .data (s.pop db key side)
  | .addMember key member => maybe .flag (s.addMember db key member)
  | .removeMember key member => maybe .flag (s.removeMember db key member)
  | .popMember key => maybe .data (s.popMember pick db key)
  | .moveMember source target member => maybe .flag (s.moveMember db source target member)
  | .combineInto algebra target keys => (.ok .done, s.combineInto algebra db target keys)

end Operation

end ReplicatedStore
