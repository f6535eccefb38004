import ReplicatedStore.Text.Bytes
import Std.Data.ExtTreeMap
import Std.Data.ExtTreeSet

/-!
# Stored values

A key holds a string of octets, a list of them or a set of them.
-/

open Std (ExtTreeMap ExtTreeSet)

namespace ReplicatedStore

/-- A set of strings of octets, kept in their lexical order. -/
abbrev Members := ExtTreeSet Bytes

/-- What a key holds. -/
inductive Value where
  /-- One string of octets. -/
  | string (data : Bytes)
  /-- A list, from its head to its tail. -/
  | list (items : List Bytes)
  /-- A set. -/
  | set (members : Members)
  deriving DecidableEq

/-- The type of what a key holds, if it holds anything. -/
inductive ValueType where
  /-- The key does not exist. -/
  | none
  /-- A string. -/
  | string
  /-- A list. -/
  | list
  /-- A set. -/
  | set
  deriving DecidableEq, Repr

/-- The name of the type, as clients see it. -/
def ValueType.name : ValueType → String
  | .none => "none"
  | .string => "string"
  | .list => "list"
  | .set => "set"

namespace Value

/-- The type of the value. -/
def type : Value → ValueType
  | .string _ => .string
  | .list _ => .list
  | .set _ => .set

/-- How many octets of data the value holds. -/
def size : Value → Nat
  | .string data => data.length
  | .list items => items.flatten.length
  | .set members => members.toList.flatten.length

end Value

/-- The keys of one database with what they hold. -/
abbrev Database := ExtTreeMap String Value

end ReplicatedStore
