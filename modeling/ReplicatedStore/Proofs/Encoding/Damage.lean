import Mathlib.Tactic.IntervalCases
import ReplicatedStore.Proofs.Change.Encoding
import ReplicatedStore.Proofs.Encoding.Checksum
import ReplicatedStore.Proofs.Snapshot.Encoding

/-!
# Damaged data is refused

The two formats are made alike: a mark of four octets, the version of the format, and blobs.  Of
what is written in either, no part is read that lacks its end, and no octet can be exchanged for
another without its being noticed, unless it belongs to the length of a blob (`damage_is_noticed`).
A changed length may be noticed too, but as what depends on the octets that follow.

Two properties of readers are followed through a format.  `RunsOut` says that a reader wants all of
the octets, and `Refuses` that it finds a fault in them whatever comes after them.  A reader that
goes on to the next part wants that part too, and finds what is wrong there, because it has read the
part before as it was written (`Reads`).  What is inside a blob is looked at after its checksum, so
a changed octet never reaches those who would interpret it.
-/

namespace ReplicatedStore.Layout

/-- The reader ends too early on every beginning of the octets. -/
def RunsOut {α : Type} (read : Reader α) (b : Bytes) : Prop :=
  ∀ k < b.length, read (b.take k) = .error .unexpectedEnd

section Readers

variable {α β : Type} {read : Reader α} {b c : Bytes} {a : α}

lemma runsOut_nil (read : Reader α) : RunsOut read [] := by
  simp [RunsOut]

/-- What is done after reading does not help. -/
lemma RunsOut.andThen (h : RunsOut read b) (next : α → Reader β) : RunsOut (read >>= next) b :=
  fun k hk => bind_of_error (h k hk) next

lemma RunsOut.bind (h : RunsOut read b) (hread : Reads read b a) {next : α → Reader β}
    (g : RunsOut (next a) c) : RunsOut (read >>= next) (b ++ c) := by
  intro k hk
  rw [List.length_append] at hk
  by_cases hshort : k < b.length
  · rw [List.take_append_of_le_length (Nat.le_of_lt hshort)]
    exact bind_of_error (h k hshort) next
  · rw [List.take_append, List.take_of_length_le (Nat.not_lt.mp hshort), bind_of_reads hread]
    exact g _ (by omega)

end Readers

/-! ## Numbers and strings of octets -/

lemma runsOut_take (b : Bytes) : RunsOut (take b.length) b := by
  intro k hk
  rw [take, if_pos]
  rw [List.length_take]
  omega

lemma runsOut_takeNumber (b : Bytes) : RunsOut (takeNumber b.length) b :=
  (runsOut_take b).andThen _

/-- Any octets of the right number are read as a number. -/
lemma reads_takeNumber_number (b : Bytes) : Reads (takeNumber b.length) b (number b) :=
  (reads_take b).map number

/-- Octets are the least octets of the number that they are. -/
lemma littleEndian_number (b : Bytes) : littleEndian b.length (number b) = b := by
  induction b with
  | nil => rfl
  | cons octet rest ih =>
    have hoctet := octet.toNat_lt
    have hfirst : UInt8.ofNat (octet.toNat + 256 * number rest) = octet := by
      apply UInt8.toNat_inj.mp
      rw [UInt8.toNat_ofNat']
      omega
    have hrest : (octet.toNat + 256 * number rest) / 256 = number rest := by omega
    rw [List.length_cons, number, littleEndian, hfirst, hrest, ih]

lemma number_lt (b : Bytes) : number b < 256 ^ b.length := by
  induction b with
  | nil => simp [number]
  | cons octet rest ih =>
    have hoctet := octet.toNat_lt
    rw [List.length_cons, number, Nat.pow_succ]
    omega

/-! ## Blobs -/

lemma runsOut_takeBlob {payload : Bytes} (h : payload.length < 0x100000000) :
    RunsOut takeBlob (blob payload) := by
  have hlength : RunsOut (takeNumber 4) (littleEndian 4 payload.length) := by
    have hruns := runsOut_takeNumber (littleEndian 4 payload.length)
    rwa [length_littleEndian] at hruns
  have hsum : RunsOut (takeNumber 4) (littleEndian 4 (Checksum.crc32 payload).toNat) := by
    have hruns := runsOut_takeNumber (littleEndian 4 (Checksum.crc32 payload).toNat)
    rwa [length_littleEndian] at hruns
  have hbytes : RunsOut takeBytes (littleEndian 4 payload.length ++ payload) :=
    hlength.bind (reads_takeNumber h) (runsOut_take payload)
  rw [blob, ← List.append_assoc]
  exact hbytes.bind (reads_takeBytes h) (hsum.andThen _)

/-- A payload that does not have the checksum behind it is refused. -/
lemma refuses_takeBlob {payload sum : Bytes} (h : payload.length < 0x100000000)
    (hlength : sum.length = 4) (hsum : sum ≠ littleEndian 4 (Checksum.crc32 payload).toNat) :
    Refuses takeBlob (littleEndian 4 payload.length ++ (payload ++ sum))
      (.checksumMismatch (UInt32.ofNat (number sum)) (Checksum.crc32 payload)) := by
  have hread : Reads (takeNumber 4) sum (number sum) := by
    have hnumber := reads_takeNumber_number sum
    rwa [hlength] at hnumber
  have hdiffers : UInt32.ofNat (number sum) ≠ Checksum.crc32 payload := by
    intro hsame
    apply hsum
    have hlt : number sum < 2 ^ 32 := by
      have hbound := number_lt sum
      rw [hlength] at hbound
      exact hbound
    rw [← hsame, UInt32.toNat_ofNat_of_lt' hlt, ← hlength, littleEndian_number]
  rw [← List.append_assoc]
  refine (reads_takeBytes h).refuses ?_
  intro rest
  rw [bind_of_reads hread]
  exact congrFun (if_neg hdiffers) rest

/-- **An octet of the payload or of the checksum that is another one is noticed.** -/
lemma refuses_takeBlob_set {payload : Bytes} (h : payload.length < 0x100000000) {i : Nat}
    {x : UInt8} (hset : (blob payload).set i x ≠ blob payload) (hi : 4 ≤ i) :
    ∃ expected actual,
      Refuses takeBlob ((blob payload).set i x) (.checksumMismatch expected actual) := by
  rw [blob, List.set_append_right _ _ (by simpa using hi), length_littleEndian] at hset ⊢
  have hset := fun hsame => hset (congrArg _ hsame)
  by_cases hin : i - 4 < payload.length
  · -- The payload has another checksum than the one that was written.
    rw [List.set_append_left _ _ hin] at hset ⊢
    have hpayload : payload.set (i - 4) x ≠ payload :=
      fun hsame => hset (congrArg (· ++ _) hsame)
    have hsum : littleEndian 4 (Checksum.crc32 payload).toNat ≠
        littleEndian 4 (Checksum.crc32 (payload.set (i - 4) x)).toNat := by
      intro hsame
      have hnumber := congrArg number hsame
      rw [number_littleEndian (UInt32.toNat_lt _), number_littleEndian (UInt32.toNat_lt _)]
        at hnumber
      exact Checksum.crc32_set hpayload (UInt32.toNat_inj.mp hnumber.symm)
    have hlength : (payload.set (i - 4) x).length = payload.length := List.length_set
    have hrefuses := refuses_takeBlob (hlength ▸ h) (length_littleEndian 4 _) hsum
    rw [hlength] at hrefuses
    exact ⟨_, _, hrefuses⟩
  · -- The checksum that is there is not the one that was written.
    rw [List.set_append_right _ _ (Nat.not_lt.mp hin)] at hset ⊢
    exact ⟨_, _, refuses_takeBlob h (by simp) fun hsame => hset (congrArg _ hsame)⟩

/-! ## Several blobs -/

/-- The octets of blobs, one after the other. -/
def blobs (payloads : List Bytes) : Bytes :=
  payloads.flatMap blob

/-- Does the octet at the position belong to the length of one of the blobs? -/
def InLength : List Bytes → Nat → Prop
  | [], _ => False
  | payload :: rest, i =>
    i < 4 ∨ (blob payload).length ≤ i ∧ InLength rest (i - (blob payload).length)

/-- The reader wants all of the blobs, and notices any other octet but those of their lengths. -/
structure Covers {α : Type} (read : Reader α) (payloads : List Bytes) : Prop where
  runsOut : RunsOut read (blobs payloads)
  refuses : ∀ i x, (blobs payloads).set i x ≠ blobs payloads → ¬ InLength payloads i →
    ∃ expected actual, Refuses read ((blobs payloads).set i x) (.checksumMismatch expected actual)

section Covers

variable {α β : Type} {payload : Bytes} {payloads : List Bytes}

/-- Where there are no blobs there is nothing to be damaged, so what is read of a last blob does not
matter. -/
lemma covers_nil (read : Reader α) : Covers read [] :=
  ⟨runsOut_nil read, fun _ _ hset => absurd rfl hset⟩

/-- What is read without taking any octets may come before. -/
lemma Covers.andThen {read : Reader α} {a : α} {next : α → Reader β} (hread : Reads read [] a)
    (hnext : Covers (next a) payloads) : Covers (read >>= next) payloads := by
  constructor
  · exact (runsOut_nil read).bind hread hnext.runsOut
  · intro i x hset hi
    obtain ⟨expected, actual, hrefuses⟩ := hnext.refuses i x hset hi
    exact ⟨expected, actual, hread.refuses hrefuses⟩

/-- A blob before the others. -/
lemma Covers.cons (h : payload.length < 0x100000000) {next : Bytes → Reader β}
    (hnext : Covers (next payload) payloads) :
    Covers (takeBlob >>= next) (payload :: payloads) := by
  have hread : Reads takeBlob (blob payload) payload := reads_takeBlob h
  constructor
  · exact (runsOut_takeBlob h).bind hread hnext.runsOut
  · intro i x hset hi
    obtain ⟨hlength, hlater⟩ := not_or.mp hi
    rw [blobs, List.flatMap_cons] at hset ⊢
    by_cases hfirst : i < (blob payload).length
    · rw [List.set_append_left _ _ hfirst] at hset ⊢
      obtain ⟨expected, actual, hrefuses⟩ := refuses_takeBlob_set h
        (fun hsame => hset (congrArg (· ++ _) hsame)) (Nat.not_lt.mp hlength)
      exact ⟨expected, actual, hrefuses.bind _ _⟩
    · rw [List.set_append_right _ _ (Nat.not_lt.mp hfirst)] at hset ⊢
      obtain ⟨expected, actual, hrefuses⟩ := hnext.refuses _ x
        (fun hsame => hset (congrArg _ hsame)) fun hin => hlater ⟨Nat.not_lt.mp hfirst, hin⟩
      exact ⟨expected, actual, hread.refuses hrefuses⟩

end Covers

/-! ## Formats -/

/-- The reader wants the mark and the version of a format.  `short` is what it says of data too
short for the mark. -/
structure Heads (read : Reader Unit) (mark : Bytes) (version : UInt8) (short : FormatError) :
    Prop where
  reads : Reads read (mark ++ [version]) ()
  tooShort : ∀ k ≤ mark.length,
    read (mark.take k) = .error (if k < mark.length then short else .unexpectedEnd)
  badMark : ∀ other : Bytes, other.length = mark.length → other ≠ mark →
    Refuses read other .badMagic
  badVersion : ∀ other, other ≠ version →
    Refuses read (mark ++ [other]) (.unsupportedVersion other)

/-- Data in a format with a mark, a version and blobs, all damage to which is noticed but that to
the lengths of the blobs. -/
structure Guarded {α : Type} (decode : Bytes → Except FormatError α) (short : FormatError)
    (mark : Bytes) (version : UInt8) (payloads : List Bytes) (b : Bytes) : Prop where
  /-- The data is in the format. -/
  layout : b = mark ++ version :: blobs payloads
  /-- No beginning of it is read. -/
  cut : ∀ k < b.length,
    decode (b.take k) = .error (if k < mark.length then short else .unexpectedEnd)
  /-- Another octet in the mark. -/
  inMark : ∀ i (h : i < b.length) x, x ≠ b[i] → i < mark.length →
    decode (b.set i x) = .error .badMagic
  /-- Another version. -/
  inVersion : ∀ i (h : i < b.length) x, x ≠ b[i] → i = mark.length →
    decode (b.set i x) = .error (.unsupportedVersion x)
  /-- Another octet in the payload or the checksum of a blob. -/
  inBlob : ∀ i (h : i < b.length) x, x ≠ b[i] → mark.length < i →
    ¬ InLength payloads (i - (mark.length + 1)) →
    ∃ expected actual, decode (b.set i x) = .error (.checksumMismatch expected actual)

lemma set_ne {b : Bytes} {i : Nat} (h : i < b.length) {x : UInt8} (hx : x ≠ b[i]) :
    b.set i x ≠ b := by
  intro hsame
  apply hx
  have hget : (b.set i x)[i]? = b[i]? := by rw [hsame]
  simpa [h] using hget

/-- What is read by its mark, its version and its blobs is guarded. -/
lemma Heads.guarded {α : Type} {header : Reader Unit} {body : Reader α} {mark : Bytes}
    {version : UInt8} {short : FormatError} {payloads : List Bytes}
    (hhead : Heads header mark version short) (hbody : Covers body payloads) :
    Guarded (header >>= fun _ => body).parse short mark version payloads
      (mark ++ version :: blobs payloads) := by
  have hsplit : mark ++ version :: blobs payloads = (mark ++ [version]) ++ blobs payloads := by simp
  refine ⟨rfl, ?_, ?_, ?_, ?_⟩
  · intro k hk
    by_cases hmark : k ≤ mark.length
    · rw [List.take_append_of_le_length hmark]
      exact parse_of_error (bind_of_error (hhead.tooShort k hmark) _)
    · have hlong : mark.length + 1 ≤ k := by omega
      have hrest : k - (mark.length + 1) < (blobs payloads).length := by
        simp only [List.length_append, List.length_cons] at hk
        omega
      rw [hsplit, List.take_append, List.take_of_length_le (by simpa using hlong),
        if_neg (by omega)]
      apply parse_of_error
      rw [bind_of_reads hhead.reads]
      simpa using hbody.runsOut _ hrest
  · intro i h x hx hi
    have hset := set_ne h hx
    rw [List.set_append_left _ _ hi] at hset ⊢
    have hmark : mark.set i x ≠ mark := fun hsame => hset (congrArg (· ++ _) hsame)
    exact ((hhead.badMark _ List.length_set hmark).bind _ _).parse
  · intro i h x hx hi
    subst hi
    have hversion : x ≠ version := by simpa using hx
    have hset : (mark ++ version :: blobs payloads).set mark.length x =
        (mark ++ [x]) ++ blobs payloads := by
      rw [List.set_append_right _ _ (Nat.le_refl _)]
      simp
    rw [hset]
    exact ((hhead.badVersion x hversion).bind _ _).parse
  · intro i h x hx hi hlength
    have hset := set_ne h hx
    have hbehind : (mark ++ [version]).length ≤ i := by simpa using Nat.succ_le_of_lt hi
    rw [hsplit, List.set_append_right _ _ hbehind] at hset ⊢
    rw [List.length_append, List.length_singleton] at hset ⊢
    obtain ⟨expected, actual, hrefuses⟩ :=
      hbody.refuses _ x (fun hsame => hset (congrArg _ hsame)) hlength
    exact ⟨expected, actual, (hhead.reads.refuses hrefuses).parse⟩

end ReplicatedStore.Layout

namespace ReplicatedStore

open Layout

/-! ## Snapshots -/

namespace Snapshot

lemma heads_takeHeader : Heads takeHeader magic formatVersion .unexpectedEnd := by
  refine ⟨reads_takeHeader, ?_, ?_, ?_⟩
  · intro k hk
    have hle : k ≤ 4 := hk
    interval_cases k <;> rfl
  · intro other hlength hother rest
    have hread : Reads (take magic.length) other other := hlength ▸ reads_take other
    unfold takeHeader
    rw [bind_of_reads hread, if_pos hother]
    rfl
  · intro other hother rest
    show (if other ≠ formatVersion then _ else _ : Reader Unit) rest = _
    rw [if_pos hother]
    rfl

/-- A snapshot is written as two blobs, which are guarded. -/
lemma guarded_encode {s : Snapshot} {b : Bytes} (h : s.encode = .ok b) :
    ∃ values ends, Guarded decode .unexpectedEnd magic formatVersion [values, ends] b := by
  obtain ⟨values, hvalues, h⟩ := bind_eq_ok h
  obtain ⟨ends, hends, h⟩ := bind_eq_ok h
  obtain ⟨first, hfirst, h⟩ := bind_eq_ok h
  obtain ⟨second, hsecond, h⟩ := bind_eq_ok h
  obtain ⟨hvaluesLength, rfl⟩ := putBlob_eq_ok hfirst
  obtain ⟨hendsLength, rfl⟩ := putBlob_eq_ok hsecond
  have hread := takeDatabases_putBlob (fun _ _ entry _ => takeEntry_putEntry entry)
    four_le_putEntry hvalues
  have hbytes : magic ++ formatVersion :: blob values ++ blob ends =
      magic ++ formatVersion :: blobs [values, ends] := by simp [blobs]
  rw [← Except.ok.inj h, hbytes]
  refine ⟨values, ends, heads_takeHeader.guarded ?_⟩
  exact .cons hvaluesLength (.andThen hread.within (.cons hendsLength (covers_nil _)))

end Snapshot

/-! ## Changes -/

namespace Change

lemma heads_takeHeader : Heads takeHeader magic formatVersion .badMagic := by
  refine ⟨reads_takeHeader, ?_, ?_, ?_⟩
  · intro k hk
    have hle : k ≤ 4 := hk
    interval_cases k <;> rfl
  · intro other hlength hother rest
    have hfront : (other ++ rest).take magic.length = other := by
      rw [← hlength, List.take_left]
    show (if (other ++ rest).take magic.length ≠ magic then _ else _ : Reader Unit) _ = _
    rw [hfront, if_pos hother]
    rfl
  · intro other hother rest
    show (if other ≠ formatVersion then _ else _ : Reader Unit) rest = _
    rw [if_pos hother]
    rfl

/-- A change is written as one blob, which is guarded. -/
lemma guarded_encode {c : Change} {b : Bytes} (h : c.encode = .ok b) :
    ∃ payload, Guarded decode .badMagic magic formatVersion [payload] b := by
  obtain ⟨payload, -, h⟩ := bind_eq_ok h
  obtain ⟨sealed, hsealed, h⟩ := bind_eq_ok h
  obtain ⟨hlength, rfl⟩ := putBlob_eq_ok hsealed
  have hbytes : magic ++ formatVersion :: blob payload =
      magic ++ formatVersion :: blobs [payload] := by simp [blobs]
  rw [← Except.ok.inj h, hbytes]
  exact ⟨payload, heads_takeHeader.guarded (.cons hlength (covers_nil _))⟩

end Change

/-- **Damage is noticed.**  Of every snapshot and every change that can be encoded:

* no beginning of the encoded form is read, short of the whole of it;
* no octet can be exchanged for another one without the fault that tells so, in the mark, in the
  version of the format, and in the payload and the checksum of each blob. -/
theorem damage_is_noticed :
    (∀ (s : Snapshot) (b : Bytes), s.encode = .ok b → ∃ values ends,
      Guarded Snapshot.decode .unexpectedEnd Snapshot.magic Snapshot.formatVersion
        [values, ends] b) ∧
    ∀ (c : Change) (b : Bytes), c.encode = .ok b → ∃ payload,
      Guarded Change.decode .badMagic Change.magic Change.formatVersion [payload] b :=
  ⟨fun _ _ h => Snapshot.guarded_encode h, fun _ _ h => Change.guarded_encode h⟩

/-- The encoded form of a snapshot without databases. -/
def Snapshot.barest : Bytes :=
  [0x52, 0x4B, 0x56, 0x53, 1, 4, 0, 0, 0, 0, 0, 0, 0, 0x1C, 0xDF, 0x44, 0x21, 4, 0, 0, 0, 0, 0, 0,
    0, 0x1C, 0xDF, 0x44, 0x21]

/-- The encoded form of a change with empty names and one empty argument, whose version is refused
once it is looked at. -/
def Change.barest : Bytes :=
  [0x52, 0x4B, 0x56, 0x44, 1, 24, 0, 0, 0, 0, 0, 0, 0, 0, 0, 0, 0x80, 0, 0, 0, 0, 0, 0, 0, 0, 1, 0,
    0, 0, 0, 0, 0, 0, 0x56, 0x01, 0xE7, 0xD5]

/-- The snapshot without its last octet, or with a count of one database; the change without an
octet of its mark, in another version of the format, and with a version that would be taken. -/
theorem damage_is_noticed_barest :
    (Snapshot.encode ⟨∅, ∅⟩ = .ok Snapshot.barest ∧
      Snapshot.decode (Snapshot.barest.take 28) = .error .unexpectedEnd ∧
      ∃ expected actual, Snapshot.decode (Snapshot.barest.set 9 1) =
        .error (.checksumMismatch expected actual)) ∧
    Change.encode ⟨"", "", [[]], some 0x8000000000000000⟩ = .ok Change.barest ∧
      Change.decode (Change.barest.take 3) = .error .badMagic ∧
      Change.decode (Change.barest.set 4 2) = .error (.unsupportedVersion 2) ∧
      ∃ expected actual, Change.decode (Change.barest.set 16 0) =
        .error (.checksumMismatch expected actual) := by
  have hsnapshot : Snapshot.encode ⟨∅, ∅⟩ = .ok Snapshot.barest := by decide +kernel
  have hchange : Change.encode ⟨"", "", [[]], some 0x8000000000000000⟩ = .ok Change.barest := by
    decide +kernel
  obtain ⟨values, ends, hguarded⟩ := damage_is_noticed.1 _ _ hsnapshot
  obtain ⟨payload, hguardedChange⟩ := damage_is_noticed.2 _ _ hchange
  refine ⟨⟨hsnapshot, hguarded.cut 28 (by decide), ?_⟩, hchange, hguardedChange.cut 3 (by decide),
    hguardedChange.inVersion 4 (by decide) 2 (by decide) rfl, ?_⟩
  · refine hguarded.inBlob 9 (by decide) 1 (by decide) (by decide) ?_
    simp [InLength, Snapshot.magic]
    omega
  · refine hguardedChange.inBlob 16 (by decide) 0 (by decide) (by decide) ?_
    simp [InLength, Change.magic]

end ReplicatedStore
