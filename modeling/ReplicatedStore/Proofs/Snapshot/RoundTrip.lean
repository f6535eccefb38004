import ReplicatedStore.Proofs.Encoding.Size
import ReplicatedStore.Proofs.Snapshot.Encoding

/-!
# Every snapshot that fits is kept

A snapshot can be written as soon as either blob has fewer than 2^32 octets, and it is read back as
it was, whatever stands behind it (`Fits.kept`).  Nothing is asked of the counts and lengths inside
the blobs: each of them is smaller than the blob it stands in.

The two sizes are told from the snapshot alone.  A name or a string takes four octets more than it
has, a value one more for its tag, an end eight, and a database, a list or a set four more than what
is in it; so even an empty database or value takes the four octets that the count in front of it is
held against.
-/

open Std (ExtTreeMap ExtTreeSet)

namespace ReplicatedStore.Snapshot

open Layout

/-! ## Sizes -/

/-- The size of a value with its tag. -/
def valueSize : Value → Nat
  | .string data => 1 + bytesSize data
  | .list items => 1 + allSize bytesSize items
  | .set members => 1 + allSize bytesSize members.toList

/-- The size of a key and its value. -/
def entrySize (entry : String × Value) : Nat :=
  textSize entry.1 + valueSize entry.2

/-- The size of a key and its end. -/
def deadlineSize (entry : String × Nat) : Nat :=
  textSize entry.1 + 8

/-- The size of a database, where `size` is that of a key with what belongs to it. -/
def databaseSize {α : Type} (size : String × α → Nat) (entry : String × ExtTreeMap String α) :
    Nat :=
  textSize entry.1 + allSize size entry.2.toList

/-- The size of the first blob, which holds the values. -/
def valuesSize (s : Snapshot) : Nat :=
  allSize (databaseSize entrySize) s.values.toList

/-- The size of the second blob, which holds the ends. -/
def endsSize (s : Snapshot) : Nat :=
  allSize (databaseSize deadlineSize) s.expires.toList

/-- Does the snapshot fit in the format?  The sizes of its blobs have 32 bits, and the ends of its
keys 64. -/
structure Fits (s : Snapshot) : Prop where
  values : s.valuesSize < 0x100000000
  ends : s.endsSize < 0x100000000
  deadlines : s.EndsFit

/-! ## What is written -/

lemma four_le_textSize (s : String) : 4 ≤ textSize s := by
  unfold textSize bytesSize
  omega

lemma four_le_bytesSize (b : Bytes) : 4 ≤ bytesSize b := by
  unfold bytesSize
  omega

/-- What starts with a name takes four octets at least. -/
lemma four_le_entrySize (entry : String × Value) : 4 ≤ entrySize entry :=
  Nat.le_trans (four_le_textSize entry.1) (Nat.le_add_right _ _)

lemma four_le_deadlineSize (entry : String × Nat) : 4 ≤ deadlineSize entry :=
  Nat.le_trans (four_le_textSize entry.1) (Nat.le_add_right _ _)

lemma sized_putValue : Sized putValue valueSize := by
  intro value hsize
  -- In all three cases the tag stands in front of what is sized already.
  have htagged : ∀ {tag : UInt8} {data : Bytes} {n : Nat}, data.length = n →
      (tag :: data).length = 1 + n := by
    intro tag data n hdata
    rw [List.length_cons, hdata]
    omega
  cases value with
  | string data =>
    rw [valueSize] at hsize
    obtain ⟨written, hput, hlength⟩ := sized_putBytes data (by omega)
    exact ⟨stringTag :: written, by rw [putValue, hput]; rfl, htagged hlength⟩
  | list items =>
    rw [valueSize] at hsize
    obtain ⟨written, hput, hlength⟩ := sized_putBytes.putAll four_le_bytesSize items (by omega)
    exact ⟨listTag :: written, by rw [putValue, hput]; rfl, htagged hlength⟩
  | set members =>
    rw [valueSize] at hsize
    obtain ⟨written, hput, hlength⟩ :=
      sized_putBytes.putAll four_le_bytesSize members.toList (by omega)
    exact ⟨setTag :: written, by rw [putValue, hput]; rfl, htagged hlength⟩

lemma sized_putEntry : Sized putEntry entrySize := by
  intro entry hsize
  rw [entrySize] at hsize
  obtain ⟨name, hname, hnameLength⟩ := sized_putText entry.1 (by omega)
  obtain ⟨value, hvalue, hvalueLength⟩ := sized_putValue entry.2 (by omega)
  refine ⟨name ++ value, ?_, ?_⟩
  · rw [putEntry, hname, hvalue]
    rfl
  · rw [List.length_append, hnameLength, hvalueLength, entrySize]

lemma sized_putDeadline : Sized putDeadline deadlineSize := by
  intro entry hsize
  rw [deadlineSize] at hsize
  obtain ⟨name, hname, hnameLength⟩ := sized_putText entry.1 (by omega)
  refine ⟨name ++ littleEndian 8 entry.2, ?_, ?_⟩
  · rw [putDeadline, hname]
    rfl
  · rw [List.length_append, hnameLength, length_littleEndian, deadlineSize]

section Databases

variable {α : Type} {put : String × α → Except FormatError Bytes} {size : String × α → Nat}

lemma sized_putDatabase (h : Sized put size) (hfour : ∀ a, 4 ≤ size a) :
    Sized (putDatabase put) (databaseSize size) := by
  intro entry hsize
  rw [databaseSize] at hsize
  obtain ⟨name, hname, hnameLength⟩ := sized_putText entry.1 (by omega)
  obtain ⟨keys, hkeys, hkeysLength⟩ := h.putAll hfour entry.2.toList (by omega)
  refine ⟨name ++ keys, ?_, ?_⟩
  · rw [putDatabase, hname, hkeys]
    rfl
  · rw [List.length_append, hnameLength, hkeysLength, databaseSize]

/-- The payload of a blob. -/
lemma sized_putDatabases (h : Sized put size) (hfour : ∀ a, 4 ≤ size a) :
    Sized (putAll (putDatabase put)) (allSize (databaseSize size)) := by
  refine (sized_putDatabase h hfour).putAll fun entry => ?_
  have hname := four_le_textSize entry.1
  rw [databaseSize]
  omega

end Databases

/-- A snapshot that fits can be written. -/
lemma Fits.encode {s : Snapshot} (h : s.Fits) : ∃ b, s.encode = .ok b := by
  obtain ⟨values, hvalues, hvaluesLength⟩ :=
    sized_putDatabases sized_putEntry four_le_entrySize s.values.toList h.values
  obtain ⟨ends, hends, hendsLength⟩ :=
    sized_putDatabases sized_putDeadline four_le_deadlineSize s.expires.toList h.ends
  have hvaluesFit : values.length < 0x100000000 := by
    rw [hvaluesLength]
    exact h.values
  have hendsFit : ends.length < 0x100000000 := by
    rw [hendsLength]
    exact h.ends
  obtain ⟨first, hfirst⟩ := putBlob_of_lt hvaluesFit
  obtain ⟨second, hsecond⟩ := putBlob_of_lt hendsFit
  refine ⟨magic ++ formatVersion :: first ++ second, ?_⟩
  rw [Snapshot.encode, hvalues, hends]
  show (do return magic ++ formatVersion :: (← putBlob values) ++ (← putBlob ends)) = _
  rw [hfirst, hsecond]
  rfl

/-- **A snapshot that fits is written and read back**, whatever stands behind it. -/
theorem Fits.kept {s : Snapshot} (h : s.Fits) :
    ∃ b, s.encode = .ok b ∧ ∀ rest, decode (b ++ rest) = .ok s := by
  obtain ⟨b, hencode⟩ := h.encode
  exact ⟨b, hencode, fun rest => (reads_takeSnapshot h.deadlines hencode).parse_append rest⟩

/-- The keys of a database, without any data in them. -/
def hollow : Database :=
  ExtTreeMap.ofList [("", Value.string []), ("l", Value.list [[], []]), ("s", Value.set ∅),
    ("t", Value.set ((∅ : Members).insert []))]

/-- Empty databases, names and values, and ends of keys and databases that do not exist. -/
def sparse : Snapshot where
  values := ExtTreeMap.ofList [("", ∅), ("0", hollow)]
  expires := ExtTreeMap.ofList [("0", ExtTreeMap.ofList [("gone", 0xFFFFFFFFFFFFFFFF), ("l", 0)]),
    ("9", ∅)]

theorem Fits.kept_sparse :
    sparse.Fits ∧ ∃ b, sparse.encode = .ok b ∧ ∀ rest, decode (b ++ rest) = .ok sparse := by
  have hends : ∀ entry ∈ sparse.expires.toList, ∀ binding ∈ entry.2.toList,
      binding.2 < 256 ^ 8 := by decide +kernel
  have hfits : sparse.Fits := by
    refine ⟨by decide +kernel, by decide +kernel, fun db keys hkeys key deadline hkey => ?_⟩
    exact hends (db, keys) (ExtTreeMap.mem_toList_iff_getElem?_eq_some.mpr hkeys) (key, deadline)
      (ExtTreeMap.mem_toList_iff_getElem?_eq_some.mpr hkey)
  exact ⟨hfits, hfits.kept⟩

end ReplicatedStore.Snapshot
