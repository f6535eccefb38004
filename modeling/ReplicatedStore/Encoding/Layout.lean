import ReplicatedStore.Encoding.FormatError
import ReplicatedStore.Encoding.Checksum

/-!
# The layout of encoded data

Numbers are written with their least octet first.  A string of octets follows its length in four
octets, a sequence follows its count in four octets, and a blob is a string of octets followed by
its CRC-32 checksum.  Writing fails only when a length does not fit in four octets.
-/

namespace ReplicatedStore

namespace Layout

/-! ## Writing -/

/-- The `width` lowest octets of a number, the least one first. -/
def littleEndian : Nat → Nat → Bytes
  | 0, _ => []
  | width + 1, n => UInt8.ofNat n :: littleEndian width (n / 256)

/-- A length in four octets. -/
def putLength (n : Nat) : Except FormatError Bytes :=
  if n < 0x100000000 then .ok (littleEndian 4 n) else .error (.tooLong n)

/-- A string of octets after its length. -/
def putBytes (b : Bytes) : Except FormatError Bytes := do
  return (← putLength b.length) ++ b

/-- A name, as its UTF-8 form after its length. -/
def putText (s : String) : Except FormatError Bytes :=
  putBytes (Bytes.ofText s)

/-- The elements one after the other. -/
def putEach {α : Type} (put : α → Except FormatError Bytes) : List α → Except FormatError Bytes
  | [] => .ok []
  | a :: rest => do return (← put a) ++ (← putEach put rest)

/-- The elements after their count. -/
def putAll {α : Type} (put : α → Except FormatError Bytes) (l : List α) :
    Except FormatError Bytes := do
  return (← putLength l.length) ++ (← putEach put l)

/-- A string of octets after its length and before its checksum. -/
def putBlob (payload : Bytes) : Except FormatError Bytes := do
  return (← putBytes payload) ++ littleEndian 4 (Checksum.crc32 payload).toNat

/-! ## Reading -/

/-- Reads from the front of the octets that are left. -/
abbrev Reader (α : Type) := StateT Bytes (Except FormatError) α

/-- Refuses the data. -/
def fail {α : Type} (e : FormatError) : Reader α :=
  fun _ => .error e

/-- The next `n` octets. -/
def take (n : Nat) : Reader Bytes := fun b =>
  if b.length < n then .error .unexpectedEnd else .ok (b.take n, b.drop n)

/-- The number whose octets these are, the least one first. -/
def number : Bytes → Nat
  | [] => 0
  | b :: rest => b.toNat + 256 * number rest

/-- The number in the next `width` octets. -/
def takeNumber (width : Nat) : Reader Nat := do
  return number (← take width)

/-- The next octet. -/
def takeByte : Reader UInt8 := fun b =>
  match b with
  | [] => .error .unexpectedEnd
  | first :: rest => .ok (first, rest)

/-- A count of elements.  Each takes at least the four octets of its length, so a count that the
remaining octets cannot hold is refused before any element is read. -/
def takeCount : Reader Nat := do
  let count ← takeNumber 4
  let remaining := (← get).length
  if remaining / 4 < count then fail (.invalidData (.countTooLarge count remaining))
  else return count

/-- A string of octets after its length. -/
def takeBytes : Reader Bytes := do
  take (← takeNumber 4)

/-- A name after its length. -/
def takeText : Reader String := do
  match (← takeBytes).text? with
  | some s => return s
  | none => fail (.invalidData .nameNotText)

/-- `n` elements one after the other. -/
def takeEach {α : Type} (read : Reader α) : Nat → Reader (List α)
  | 0 => return []
  | n + 1 => do return (← read) :: (← takeEach read n)

/-- The elements after their count. -/
def takeAll {α : Type} (read : Reader α) : Reader (List α) := do
  takeEach read (← takeCount)

/-- The payload of a blob whose checksum holds. -/
def takeBlob : Reader Bytes := do
  let payload ← takeBytes
  let expected := UInt32.ofNat (← takeNumber 4)
  let actual := Checksum.crc32 payload
  if expected = actual then return payload
  else fail (.checksumMismatch expected actual)

/-- What a reader finds at the front of the octets; whatever is left over is let go. -/
def Reader.parse {α : Type} (read : Reader α) (b : Bytes) : Except FormatError α :=
  (read b).map Prod.fst

/-- What a reader finds at the front of a string of octets that has been cut out. -/
def within {α : Type} (payload : Bytes) (read : Reader α) : Reader α := fun rest =>
  (read.parse payload).map fun a => (a, rest)

end Layout

end ReplicatedStore
