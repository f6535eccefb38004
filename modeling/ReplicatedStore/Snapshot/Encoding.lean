import ReplicatedStore.Encoding.Layout
import ReplicatedStore.Snapshot

/-!
# Encoded snapshots

A snapshot is kept in a file, and sent to a replica, as

    mark "RKVS", format version 1, blob of the values, blob of the ends

where either blob holds a sequence of databases, each a name and a sequence of keys.  A key of the
first blob is a name, a tag for the type and the value; one of the second is a name and its end in
eight octets.  Databases and keys come in the order of their names, so equal snapshots have the same
form.  Reading takes them in any order; of two with the same name the later one counts.
-/

open Std (ExtTreeMap ExtTreeSet)

namespace ReplicatedStore.Snapshot

open Layout

/-- The mark that a snapshot starts with. -/
def magic : Bytes := [0x52, 0x4B, 0x56, 0x53]

/-- The version of the format. -/
def formatVersion : UInt8 := 1

/-- The tag of a string. -/
def stringTag : UInt8 := 0

/-- The tag of a list. -/
def listTag : UInt8 := 1

/-- The tag of a set. -/
def setTag : UInt8 := 2

/-! ## Writing -/

/-- A value after its tag. -/
def putValue : Value → Except FormatError Bytes
  | .string data => return stringTag :: (← putBytes data)
  | .list items => return listTag :: (← putAll putBytes items)
  | .set members => return setTag :: (← putAll putBytes members.toList)

/-- A key and its value. -/
def putEntry (entry : String × Value) : Except FormatError Bytes := do
  return (← putText entry.1) ++ (← putValue entry.2)

/-- A key and its end. -/
def putDeadline (entry : String × Nat) : Except FormatError Bytes := do
  return (← putText entry.1) ++ littleEndian 8 entry.2

/-- A database and its keys, each written by `put`. -/
def putDatabase {α : Type} (put : String × α → Except FormatError Bytes)
    (entry : String × ExtTreeMap String α) : Except FormatError Bytes := do
  return (← putText entry.1) ++ (← putAll put entry.2.toList)

/-- A snapshot in its encoded form. -/
def encode (s : Snapshot) : Except FormatError Bytes := do
  let values ← putAll (putDatabase putEntry) s.values.toList
  let expires ← putAll (putDatabase putDeadline) s.expires.toList
  return magic ++ formatVersion :: (← putBlob values) ++ (← putBlob expires)

/-! ## Reading -/

/-- A value after its tag. -/
def takeValue : Reader Value := do
  let tag ← takeByte
  if tag = stringTag then return .string (← takeBytes)
  else if tag = listTag then return .list (← takeAll takeBytes)
  else if tag = setTag then return .set (ExtTreeSet.ofList (← takeAll takeBytes))
  else fail (.unknownTag tag)

/-- A key and its value. -/
def takeEntry : Reader (String × Value) := do
  return (← takeText, ← takeValue)

/-- A key and its end. -/
def takeDeadline : Reader (String × Nat) := do
  return (← takeText, ← takeNumber 8)

/-- A database and its keys, each read by `read`. -/
def takeDatabase {α : Type} (read : Reader (String × α)) :
    Reader (String × ExtTreeMap String α) := do
  return (← takeText, ExtTreeMap.ofList (← takeAll read))

/-- The mark and the version of the format. -/
def takeHeader : Reader Unit := do
  if (← take magic.length) ≠ magic then fail .badMagic
  let version ← takeByte
  if version ≠ formatVersion then fail (.unsupportedVersion version)

/-- A snapshot at the front of the octets. -/
def takeSnapshot : Reader Snapshot := do
  takeHeader
  let values ← within (← takeBlob) (takeAll (takeDatabase takeEntry))
  let expires ← within (← takeBlob) (takeAll (takeDatabase takeDeadline))
  return ⟨ExtTreeMap.ofList values, ExtTreeMap.ofList expires⟩

/-- The snapshot that the octets encode; octets after it do not matter. -/
def decode (b : Bytes) : Except FormatError Snapshot :=
  takeSnapshot.parse b

end ReplicatedStore.Snapshot
