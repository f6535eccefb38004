import ReplicatedStore.Store.Basic
import ReplicatedStore.Text.Blank
import ReplicatedStore.Text.Decimal

/-!
# Strings

Writing a string puts it in place of whatever the key held and takes away the deadline of the key.
-/

namespace ReplicatedStore.Store

/-- Writes a string under a key, which loses its deadline. -/
def write (s : Store) (db key : String) (data : Bytes) : Store :=
  (s.clearDeadline db key).put db key (.string data)

/-- Writes a string. -/
def set (s : Store) (db key : String) (data : Bytes) : Store :=
  (s.write db key data).commit db "set" [Bytes.ofText key, data]

/-- Writes a string and answers the one before it. -/
def getSet (s : Store) (db key : String) (data : Bytes) : Option Bytes × Store :=
  (s.get? db key, s.set db key data)

/-- Writes a string if the key does not exist, and answers whether it did so; this counts as a
change either way. -/
def setNew (s : Store) (db key : String) (data : Bytes) : Bool × Store :=
  let absent := !s.has db key
  let written := if absent then s.write db key data else s
  (absent, written.commit db "setnx" [Bytes.ofText key, data])

/-- The integer that a text denotes when the white space around it is left out. -/
def integer? (data : Bytes) : Option Int :=
  data.text?.bind fun text =>
    Decimal.read? Decimal.signed64 (Bytes.ofText (String.ofList (Text.trim text.toList)))

/-- The integer that a key holds; zero when it holds none. -/
def counter (s : Store) (db key : String) : Int :=
  ((s.get? db key).bind integer?).getD 0

/-- Adds to the integer that a key holds.  The sum must be one of 64 bits. -/
def add (s : Store) (db key : String) (amount : Int) : Attempt Int :=
  let sum := s.counter db key + amount
  if Decimal.fitsSigned64 sum then
    (.ok sum, (s.write db key (Bytes.ofText (Decimal.ofInt sum))).commit db "incrby"
      [Bytes.ofText key, Bytes.ofText (Decimal.ofInt amount)])
  else (.error .notAnInteger, s)

end ReplicatedStore.Store
