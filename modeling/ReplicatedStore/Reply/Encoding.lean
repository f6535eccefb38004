import ReplicatedStore.Reply
import ReplicatedStore.Text.Line

/-!
# Replies on the wire

A reply is one line whose first octet says its kind; octets follow their length, and several replies
their number.  `Reply.encode` writes a reply and `Reply.parse` reads one off the front of what
arrived, which may break off anywhere: then it is `Reply.Fault.incomplete` and nothing is taken.
-/

namespace ReplicatedStore.Reply

/-! ## Writing -/

/-- A line of a reply: the octet of its kind and its text. -/
def line (kind : UInt8) (text : String) : Bytes :=
  kind :: Bytes.ofText text ++ Bytes.lineEnd

mutual

/-- The reply as octets. -/
def encode : Reply → Bytes
  | .simple text => line 0x2B text
  | .error message => line 0x2D (errorMark ++ message)
  | .integer value => line 0x3A (Decimal.ofInt value)
  | .bulk data => line 0x24 (Decimal.ofNat data.length) ++ data ++ Bytes.lineEnd
  | .null => line 0x24 "-1"
  | .array items => line 0x2A (Decimal.ofNat items.length) ++ encodeAll items

/-- The replies as octets, one after the other. -/
def encodeAll : List Reply → Bytes
  | [] => []
  | item :: rest => item.encode ++ encodeAll rest

end

/-! ## Reading -/

/-- Why no reply can be read. -/
inductive Fault where
  /-- The reply breaks off; more octets may complete it. -/
  | incomplete
  /-- No kind of reply starts with the octet. -/
  | unknownKind (octet : UInt8)
  /-- A line is not UTF-8. -/
  | notText
  /-- An integer, a length or a number of replies cannot be read. -/
  | notInteger (fault : Decimal.Error)
  /-- A length is negative. -/
  | negativeLength (length : Int)
  deriving DecidableEq, Repr

/-- What is said about the fault. -/
def Fault.message : Fault → String
  | .incomplete => "not enough data is available to parse an entire frame"
  | .unknownKind octet => "invalid frame data type: " ++ Decimal.ofNat octet.toNat
  | .notText => "protocol error; invalid frame format"
  | .notInteger fault => fault.message
  | .negativeLength length => "invalid bulk length " ++ Decimal.ofInt length

/-- Takes a line. -/
def takeLine (b : Bytes) : Except Fault (Bytes × Bytes) :=
  match b.splitLine? with
  | some parts => .ok parts
  | none => .error .incomplete

/-- The text of a line. -/
def lineText (line : Bytes) : Except Fault String :=
  match line.text? with
  | some text => .ok text
  | none => .error .notText

/-- The integer of a line. -/
def lineInteger (line : Bytes) : Except Fault Int := do
  let text ← lineText line
  match Decimal.read Decimal.signed64 (Bytes.ofText text) with
  | .ok value => .ok value
  | .error fault => .error (.notInteger fault)

/-- The message of an error, without the mark that errors start with. -/
def withoutMark (text : String) : String :=
  if errorMark.toList.isPrefixOf text.toList then
    String.ofList (text.toList.drop errorMark.length)
  else text

/-- Takes octets of the given length and the line end after them. -/
def takeBulk (length : Int) (b : Bytes) : Except Fault (Reply × Bytes) :=
  if length = -1 then .ok (.null, b)
  else if length < 0 then .error (.negativeLength length)
  else if b.length < length.toNat + 2 then .error .incomplete
  else .ok (.bulk (b.take length.toNat), b.drop (length.toNat + 2))

/-- Takes so many replies, each with `takeOne`. -/
def takeMany (takeOne : Bytes → Except Fault (Reply × Bytes)) :
    Nat → Bytes → Except Fault (List Reply × Bytes)
  | 0, b => .ok ([], b)
  | count + 1, b => do
    let (first, rest) ← takeOne b
    let (others, rest) ← takeMany takeOne count rest
    return (first :: others, rest)

/-- Reads a reply off the front, where replies may be nested less than `depth` deep. -/
def parseWithin : Nat → Bytes → Except Fault (Reply × Bytes)
  | 0, _ => .error .incomplete
  | _ + 1, [] => .error .incomplete
  | depth + 1, kind :: content =>
    if kind = 0x2B then do
      let (line, rest) ← takeLine content
      return (.simple (← lineText line), rest)
    else if kind = 0x2D then do
      let (line, rest) ← takeLine content
      return (.error (withoutMark (← lineText line)), rest)
    else if kind = 0x3A then do
      let (line, rest) ← takeLine content
      return (.integer (← lineInteger line), rest)
    else if kind = 0x24 then do
      let (line, rest) ← takeLine content
      takeBulk (← lineInteger line) rest
    else if kind = 0x2A then do
      let (line, rest) ← takeLine content
      let count ← lineInteger line
      if count = -1 then return (.null, rest)
      else
        let (items, rest) ← takeMany (parseWithin depth) count.toNat rest
        return (.array items, rest)
    else .error (.unknownKind kind)

/-- Reads a reply off the front and answers it with what comes after it.  Every reply takes at least
one octet, so replies cannot be nested deeper than there are octets. -/
def parse (b : Bytes) : Except Fault (Reply × Bytes) :=
  parseWithin (b.length + 1) b

/-- Reads replies off the front, as many as are there but at most `limit`: the replies, the fault
that ended it, if it was not that a reply breaks off, and the octets left. -/
def parseUpTo : Nat → Bytes → List Reply × Option Fault × Bytes
  | 0, b => ([], none, b)
  | limit + 1, b =>
    match parse b with
    | .error .incomplete => ([], none, b)
    | .error fault => ([], some fault, b)
    | .ok (reply, rest) =>
      let (replies, fault, left) := parseUpTo limit rest
      (reply :: replies, fault, left)

/-- Reads all whole replies off the front.  Each takes at least one octet. -/
def parseAll (b : Bytes) : List Reply × Option Fault × Bytes :=
  parseUpTo b.length b

end ReplicatedStore.Reply
