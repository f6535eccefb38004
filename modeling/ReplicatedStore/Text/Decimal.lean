import ReplicatedStore.Text.Bytes

/-!
# Decimal integers

Integers are written in base ten without leading zeros, negative ones after a minus sign.  Reading
also takes a plus sign and leading zeros, holds the number to given limits, and says why it refuses:
a fault is reported at the first character that shows it, so a number that grows too large is too
large even when a stray character comes later.
-/

namespace ReplicatedStore.Decimal

/-- Why a text is not an integer within the limits. -/
inductive Error where
  /-- There is no character at all. -/
  | empty
  /-- A character is not a digit, or a sign stands alone. -/
  | invalidDigit
  /-- The number is above the limits. -/
  | tooLarge
  /-- The number is below the limits. -/
  | tooSmall
  deriving DecidableEq, Repr

/-- What is said about the fault. -/
def Error.message : Error → String
  | .empty => "cannot parse integer from empty string"
  | .invalidDigit => "invalid digit found in string"
  | .tooLarge => "number too large to fit in target type"
  | .tooSmall => "number too small to fit in target type"

/-- The largest absolute values of negative and of other integers.  Where `below` is zero, a minus
sign is not taken at all. -/
structure Limits where
  /-- The largest absolute value of a negative integer. -/
  below : Nat
  /-- The largest integer. -/
  above : Nat

/-- Integers of 64 bits with a sign. -/
def signed64 : Limits := ⟨0x8000000000000000, 0x7FFFFFFFFFFFFFFF⟩

/-- Integers of 64 bits without a sign. -/
def unsigned64 : Limits := ⟨0, 0xFFFFFFFFFFFFFFFF⟩

/-- Integers of 16 bits without a sign. -/
def unsigned16 : Limits := ⟨0, 0xFFFF⟩

/-- The value of an ASCII digit. -/
def digitValue? (b : UInt8) : Option Nat :=
  if 0x30 ≤ b ∧ b ≤ 0x39 then some (b.toNat - 0x30) else none

/-- Reads digits after those that gave `value`, as long as the value stays within `limit`. -/
def readDigits (limit : Nat) (overflow : Error) (value : Nat) : Bytes → Except Error Nat
  | [] => .ok value
  | b :: rest =>
    match digitValue? b with
    | none => .error .invalidDigit
    | some d =>
      if value * 10 + d ≤ limit then readDigits limit overflow (value * 10 + d) rest
      else .error overflow

/-- Reads the digits of an integer without its sign; there must be one. -/
def readUnsigned (limit : Nat) (overflow : Error) : Bytes → Except Error Nat
  | [] => .error .invalidDigit
  | b :: rest => readDigits limit overflow 0 (b :: rest)

/-- Reads an integer: an optional sign and at least one digit. -/
def read (limits : Limits) : Bytes → Except Error Int
  | [] => .error .empty
  | b :: rest =>
    if b = 0x2B then (readUnsigned limits.above .tooLarge rest).map Int.ofNat
    else if b = 0x2D ∧ limits.below ≠ 0 then
      (readUnsigned limits.below .tooSmall rest).map fun n => -Int.ofNat n
    else (readUnsigned limits.above .tooLarge (b :: rest)).map Int.ofNat

/-- The integer that a text denotes within the limits, if it denotes one. -/
def read? (limits : Limits) (b : Bytes) : Option Int :=
  (read limits b).toOption

/-- Is the integer one of 64 bits with a sign? -/
def fitsSigned64 (i : Int) : Bool :=
  -0x8000000000000000 ≤ i && i < 0x8000000000000000

/-- The text of a natural number. -/
def ofNat (n : Nat) : String :=
  String.ofList (Nat.toDigits 10 n)

/-- The text of an integer. -/
def ofInt : Int → String
  | .ofNat n => ofNat n
  | .negSucc n => "-" ++ ofNat (n + 1)

/-- A natural number seen as a 64-bit word with a sign, as counters are shown in replies. -/
def asSigned64 (n : Nat) : Int :=
  let word := n % 0x10000000000000000
  if word < 0x8000000000000000 then (word : Int) else (word : Int) - 0x10000000000000000

end ReplicatedStore.Decimal
