import ReplicatedStore.Proofs.Encoding.Layout

/-!
# How long encoded data is

The only thing that writing can fail at is a length or a count of 2^32 or more.  `Sized put size`
says that this is no matter of the parts but of the whole: `put` writes everything whose size is
below that limit, in as many octets as its size says.  Sizes are numbers of their own, told from
the data and not from what is written; those of sequences add up.

A sequence is sized where its elements take four octets at least (`Sized.putAll`), because then
there are fewer elements than octets.
-/

namespace ReplicatedStore.Layout

/-- What has a size below the limit of lengths is written in that many octets. -/
def Sized {α : Type} (put : α → Except FormatError Bytes) (size : α → Nat) : Prop :=
  ∀ a, size a < 0x100000000 → ∃ b, put a = .ok b ∧ b.length = size a

/-- The size of a string of octets with its length. -/
def bytesSize (b : Bytes) : Nat :=
  4 + b.length

/-- The size of a name with its length. -/
def textSize (s : String) : Nat :=
  bytesSize (Bytes.ofText s)

/-- The sizes of elements, added up. -/
def eachSize {α : Type} (size : α → Nat) : List α → Nat
  | [] => 0
  | a :: rest => size a + eachSize size rest

/-- The size of a sequence with its count. -/
def allSize {α : Type} (size : α → Nat) (l : List α) : Nat :=
  4 + eachSize size l

lemma putLength_of_lt {n : Nat} (h : n < 0x100000000) : putLength n = .ok (littleEndian 4 n) :=
  if_pos h

lemma sized_putBytes : Sized putBytes bytesSize := by
  intro b hsize
  have hlength : b.length < 0x100000000 := by
    unfold bytesSize at hsize
    omega
  refine ⟨littleEndian 4 b.length ++ b, ?_, ?_⟩
  · rw [putBytes, putLength_of_lt hlength]
    rfl
  · rw [List.length_append, length_littleEndian, bytesSize]

lemma sized_putText : Sized putText textSize :=
  fun s hsize => sized_putBytes (Bytes.ofText s) hsize

section Sequences

variable {α : Type} {put : α → Except FormatError Bytes} {size : α → Nat}

lemma Sized.putEach (h : Sized put size) : Sized (putEach put) (eachSize size) := by
  intro l
  induction l with
  | nil => exact fun _ => ⟨[], rfl, rfl⟩
  | cons a rest ih =>
    intro hsize
    rw [eachSize] at hsize
    obtain ⟨first, hfirst, hfirstLength⟩ := h a (by omega)
    obtain ⟨others, hothers, hothersLength⟩ := ih (by omega)
    refine ⟨first ++ others, ?_, ?_⟩
    · rw [Layout.putEach, hfirst, hothers]
      rfl
    · rw [List.length_append, hfirstLength, hothersLength, eachSize]

/-- There are not more elements than octets to write them in. -/
lemma length_le_eachSize (hfour : ∀ a, 4 ≤ size a) (l : List α) :
    4 * l.length ≤ eachSize size l := by
  induction l with
  | nil => simp
  | cons a rest ih =>
    have hfirst := hfour a
    rw [List.length_cons, eachSize]
    omega

lemma Sized.putAll (h : Sized put size) (hfour : ∀ a, 4 ≤ size a) :
    Sized (putAll put) (allSize size) := by
  intro l hsize
  have hcount := length_le_eachSize hfour l
  have heach : eachSize size l < 0x100000000 := by
    unfold allSize at hsize
    omega
  obtain ⟨each, hput, hlength⟩ := h.putEach l heach
  refine ⟨littleEndian 4 l.length ++ each, ?_, ?_⟩
  · rw [Layout.putAll, putLength_of_lt (by omega), hput]
    rfl
  · rw [List.length_append, length_littleEndian, hlength, allSize]

end Sequences

/-! ## What was written -/

/-- What is written at all is written in as many octets as its size says. -/
def Measured {α : Type} (put : α → Except FormatError Bytes) (size : α → Nat) : Prop :=
  ∀ a b, put a = .ok b → b.length = size a

lemma measured_putBytes : Measured putBytes bytesSize := by
  intro data b h
  obtain ⟨-, rfl⟩ := putBytes_eq_ok h
  rw [List.length_append, length_littleEndian, bytesSize]

lemma measured_putText : Measured putText textSize :=
  fun s b h => measured_putBytes (Bytes.ofText s) b h

section Measured

variable {α : Type} {put : α → Except FormatError Bytes} {size : α → Nat}

lemma Measured.putEach (h : Measured put size) : Measured (putEach put) (eachSize size) := by
  intro l
  induction l with
  | nil =>
    intro b hput
    cases hput
    rfl
  | cons a rest ih =>
    intro b hput
    obtain ⟨first, hfirst, hput⟩ := bind_eq_ok hput
    obtain ⟨others, hothers, hput⟩ := bind_eq_ok hput
    rw [← Except.ok.inj hput, List.length_append, h a first hfirst, ih others hothers, eachSize]

lemma Measured.putAll (h : Measured put size) : Measured (putAll put) (allSize size) := by
  intro l b hput
  obtain ⟨length, hlength, hput⟩ := bind_eq_ok hput
  obtain ⟨-, rfl⟩ := putLength_eq_ok hlength
  obtain ⟨each, heach, hput⟩ := bind_eq_ok hput
  rw [← Except.ok.inj hput, List.length_append, length_littleEndian, h.putEach l each heach,
    allSize]

end Measured

/-- A blob can be written around everything that can be counted. -/
lemma putBlob_of_lt {payload : Bytes} (h : payload.length < 0x100000000) :
    ∃ b, putBlob payload = .ok b := by
  refine ⟨littleEndian 4 payload.length ++ payload ++
    littleEndian 4 (Checksum.crc32 payload).toNat, ?_⟩
  rw [putBlob, putBytes, putLength_of_lt h]
  rfl

end ReplicatedStore.Layout
