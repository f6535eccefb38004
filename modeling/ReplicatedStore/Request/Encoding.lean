import ReplicatedStore.Request
import ReplicatedStore.Text.Decimal
import ReplicatedStore.Text.Line
import ReplicatedStore.Text.Split

/-!
# Requests on the wire

A request is one line: the command and its arguments with a blank after each but the last.  When
octets follow the line, its last word is the length of a payload, which takes the place of that
word.  Whatever has arrived after the request is dropped with it, so a payload is only seen when a
part of it arrives together with its line.
-/

namespace ReplicatedStore.Request

/-- The request as octets, with a payload as its last argument if there is one. -/
def encode (name : Bytes) (args : List Bytes) (payload : Option Bytes) : Bytes :=
  let words := name ++ args.flatMap fun arg => 0x20 :: arg
  match payload with
  | some data =>
    words ++ 0x20 :: Bytes.ofText (Decimal.ofNat data.length) ++ Bytes.lineEnd ++ data ++
      Bytes.lineEnd
  | none => words ++ Bytes.lineEnd

/-- Why a request is refused that arrived whole. -/
inductive Fault where
  /-- The last word of a line that octets follow is not a length. -/
  | lengthNotInteger (word : Bytes)
  deriving DecidableEq, Repr

/-- What is said about the fault. -/
def Fault.message : Fault → String
  | .lengthNotInteger word => "length in message is not an integer [" ++ word.lossyText ++ "]"

/-- What the octets that arrived amount to. -/
inductive Arrival where
  /-- No whole request yet. -/
  | incomplete
  /-- A request. -/
  | request (r : Request)
  /-- A request that is refused. -/
  | refused (fault : Fault)
  /-- More octets than a request may have, which ends the connection. -/
  | tooLarge (size limit : Nat)
  deriving DecidableEq, Repr

/-- What is said when the connection ends over octets that arrived. -/
def tooLargeMessage (size limit : Nat) : String :=
  "request size " ++ Decimal.ofNat size ++ " exceeds limit of " ++ Decimal.ofNat limit ++ " bytes"

/-- What is said when the connection ends inside a request. -/
def unfinishedMessage : String := "bytes remaining on stream"

/-- The words of a line, where a doubled blank after the first one counts as one blank. -/
def dropDoubledBlank : List Bytes → List Bytes
  | name :: [] :: args => name :: args
  | words => words

/-- The request that the words of a line make. -/
def ofWords (words : List Bytes) : Request :=
  match dropDoubledBlank words with
  | [] => Request.of "" []
  | name :: args => Request.of name.lossyText args

/-- Reads a request off all that arrived.

A server makes room for the rest of a payload as soon as it knows the length.  Where the announced
length is more than any memory holds, this ends its connection, or the server itself; here such a
payload counts as one of which more is to come.  No request comes of it either way. -/
def decode (limit : Nat) (arrived : Bytes) : Arrival :=
  if limit < arrived.length then .tooLarge arrived.length limit
  else match arrived.splitLine? with
    | none => .incomplete
    | some (line, after) =>
      let words := Text.splitOn 0x20 line
      if after.isEmpty then .request (ofWords words)
      else
        let word := words.getLastD []
        match Decimal.read? Decimal.unsigned64 word with
        | none => .refused (.lengthNotInteger word)
        | some length =>
          if after.length < length.toNat then .incomplete
          else .request (ofWords (words.dropLast ++ [after.take length.toNat]))

/-- The octets that stay for the next request: all of them until there is a request, and then
none. -/
def left (arrived : Bytes) : Arrival → Bytes
  | .incomplete => arrived
  | .tooLarge _ _ => arrived
  | .request _ => []
  | .refused _ => []

/-- Reads requests off all that arrived until no more can be read: what they amount to, and the
octets that stay.  A request takes all that arrived, so there is at most one. -/
def decodeAll (limit : Nat) (arrived : Bytes) : List Arrival × Bytes :=
  let arrival := decode limit arrived
  (if arrival = .incomplete then [] else [arrival], left arrived arrival)

end ReplicatedStore.Request
