import ReplicatedStore.Text.Decimal

/-!
# Replies

Every request is answered by one reply.  `Reply.display` shows a reply in logs.
-/

namespace ReplicatedStore

/-- The answer to a request. -/
inductive Reply where
  /-- A short text. -/
  | simple (text : String)
  /-- A refusal, with what is said about it. -/
  | error (message : String)
  /-- An integer. -/
  | integer (value : Int)
  /-- Octets. -/
  | bulk (data : Bytes)
  /-- Nothing. -/
  | null
  /-- Several replies. -/
  | array (items : List Reply)
  deriving Repr

namespace Reply

/-- The reply to what was done and has no other answer. -/
def ok : Reply := .simple "OK"

/-- Octets, or nothing. -/
def ofOption (data : Option Bytes) : Reply :=
  match data with
  | some data => .bulk data
  | none => .null

/-- Several strings of octets. -/
def bulks (items : List Bytes) : Reply :=
  .array (items.map .bulk)

/-- One for true and zero for false. -/
def ofBool (b : Bool) : Reply :=
  .integer (if b then 1 else 0)

/-- How many there are. -/
def count (n : Nat) : Reply :=
  .integer (Decimal.asSigned64 n)

/-- What every error says first. -/
def errorMark : String := "ERR "

mutual

/-- The reply as one text. -/
def display : Reply → String
  | .simple text => "+" ++ text
  | .error message => "-" ++ errorMark ++ message
  | .integer value => ":" ++ Decimal.ofInt value
  | .bulk data => "$" ++ data.lossyText
  | .null => "$-1"
  | .array items => "*" ++ Decimal.ofNat items.length ++ displayAll items

/-- The replies, each after a blank. -/
def displayAll : List Reply → String
  | [] => ""
  | item :: rest => " " ++ item.display ++ displayAll rest

end

end Reply

end ReplicatedStore
