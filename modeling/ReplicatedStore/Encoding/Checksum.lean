import ReplicatedStore.Text.Bytes

/-!
# The CRC-32 checksum

The reflected cyclic redundancy check with polynomial `0xEDB88320`, started at and finished by the
complement, that guards every encoded blob.
-/

namespace ReplicatedStore.Checksum

/-- The polynomial, with its coefficients in reflected order. -/
def polynomial : UInt32 := 0xEDB88320

/-- One division step: the register moves by one bit and takes the polynomial when a one drops
out. -/
def shiftBit (register : UInt32) : UInt32 :=
  if register &&& 1 = 1 then (register >>> 1) ^^^ polynomial else register >>> 1

/-- The register after the given number of division steps. -/
def shiftBits : Nat → UInt32 → UInt32
  | 0, register => register
  | n + 1, register => shiftBits n (shiftBit register)

/-- The register after one more octet. -/
def feed (register : UInt32) (b : UInt8) : UInt32 :=
  shiftBits 8 (register ^^^ b.toUInt32)

/-- The CRC-32 checksum of a string of octets. -/
def crc32 (b : Bytes) : UInt32 :=
  b.foldl feed 0xFFFFFFFF ^^^ 0xFFFFFFFF

end ReplicatedStore.Checksum
