import ReplicatedStore.Text.Decimal
import ReplicatedStore.Directory

/-!
# Faults of encoded data

Why a snapshot or a change cannot be read, written or kept in a file, and what is said about it.
-/

namespace ReplicatedStore

/-- Data that is whole and intact but means nothing. -/
inductive DataFault where
  /-- A count of elements that the octets after it cannot hold. -/
  | countTooLarge (count remaining : Nat)
  /-- A name that is not UTF-8. -/
  | nameNotText
  /-- A version below zero. -/
  | negativeVersion (version : Int)
  deriving DecidableEq, Repr

/-- Why encoded data is refused. -/
inductive FormatError where
  /-- The data ends too early. -/
  | unexpectedEnd
  /-- The data does not start with the mark of its format. -/
  | badMagic
  /-- The data is in a version of the format that is not known. -/
  | unsupportedVersion (version : UInt8)
  /-- The data does not have the checksum it was written with. -/
  | checksumMismatch (expected actual : UInt32)
  /-- A value is of no known kind. -/
  | unknownTag (tag : UInt8)
  /-- The data means nothing. -/
  | invalidData (fault : DataFault)
  /-- A length cannot be written in four octets. -/
  | tooLong (length : Nat)
  /-- The file cannot be read or written. -/
  | file (fault : FileError)
  deriving DecidableEq, Repr

/-- The digits of a number in base sixteen, at least `width` of them. -/
def hexDigits (width n : Nat) : String :=
  let digits := Nat.toDigits 16 n
  String.ofList (List.replicate (width - digits.length) '0' ++ digits)

/-- A 32-bit word as it is shown in messages. -/
def hexWord (w : UInt32) : String :=
  "0x" ++ hexDigits 8 w.toNat

/-- What is said about the fault. -/
def DataFault.message : DataFault → String
  | .countTooLarge count remaining =>
    "count " ++ Decimal.ofNat count ++ " exceeds the remaining " ++ Decimal.ofNat remaining ++
      " bytes"
  | .nameNotText => "name is not valid UTF-8"
  | .negativeVersion version => "negative version " ++ Decimal.ofInt version

/-- What is said about the fault. -/
def FormatError.message : FormatError → String
  | .unexpectedEnd => "unexpected end of data"
  | .badMagic => "invalid magic bytes"
  | .unsupportedVersion version => "unsupported format version: " ++ Decimal.ofNat version.toNat
  | .checksumMismatch expected actual =>
    "crc32 mismatch (expected " ++ hexWord expected ++ ", got " ++ hexWord actual ++ ")"
  | .unknownTag tag => "unknown value tag: " ++ Decimal.ofNat tag.toNat
  | .invalidData fault => "invalid data: " ++ fault.message
  | .tooLong length => "length " ++ Decimal.ofNat length ++ " does not fit in a 4 byte prefix"
  | .file fault => "io error: " ++ fault.message

end ReplicatedStore
