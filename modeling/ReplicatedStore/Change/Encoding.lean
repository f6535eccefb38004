import ReplicatedStore.Encoding.Layout
import ReplicatedStore.Change

/-!
# Encoded changes

A change travels to a replica as

    mark "RKVD", format version 1, blob of: version, database, command, arguments

where the version takes eight octets and is the word of all ones for a change without one.  A word
with its highest bit set is no version otherwise.
-/

namespace ReplicatedStore.Change

open Layout

/-- The mark that a change starts with. -/
def magic : Bytes := [0x52, 0x4B, 0x56, 0x44]

/-- The version of the format. -/
def formatVersion : UInt8 := 1

/-- The word that stands for no version. -/
def noVersion : Nat := 0xFFFFFFFFFFFFFFFF

/-- The payload of an encoded change. -/
def putPayload (c : Change) : Except FormatError Bytes := do
  return littleEndian 8 (c.version.getD noVersion) ++ (← putText c.db) ++ (← putText c.command) ++
    (← putAll putBytes c.args)

/-- A change in its encoded form. -/
def encode (c : Change) : Except FormatError Bytes := do
  return magic ++ formatVersion :: (← putBlob (← putPayload c))

/-- A version, or the word that stands for none. -/
def takeVersion : Reader (Option Nat) := do
  let word ← takeNumber 8
  if word = noVersion then return none
  else if word < 0x8000000000000000 then return some word
  else fail (.invalidData (.negativeVersion (word - 0x10000000000000000)))

/-- The payload of a change. -/
def takePayload : Reader Change := do
  let version ← takeVersion
  let db ← takeText
  let command ← takeText
  let args ← takeAll takeBytes
  return ⟨db, command, args, version⟩

/-- The mark and the version of the format.  Data too short for the mark does not have it. -/
def takeHeader : Reader Unit := do
  if (← get).take magic.length ≠ magic then fail .badMagic
  modify (List.drop magic.length)
  let version ← takeByte
  if version ≠ formatVersion then fail (.unsupportedVersion version)

/-- A change at the front of the octets. -/
def takeChange : Reader Change := do
  takeHeader
  within (← takeBlob) takePayload

/-- The change that the octets encode; octets after it do not matter. -/
def decode (b : Bytes) : Except FormatError Change :=
  takeChange.parse b

end ReplicatedStore.Change
