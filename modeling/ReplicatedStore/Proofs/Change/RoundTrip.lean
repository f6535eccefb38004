import ReplicatedStore.Proofs.Change.Encoding
import ReplicatedStore.Proofs.Encoding.Size

/-!
# Which changes arrive

A change can be written exactly if its payload has fewer than 2^32 octets, and one without a
version, or with a version below 2^63, is then read back as it was (`carried`).  The number and the
lengths of its arguments do not matter otherwise: they may be empty, and the last of them may stand
at the very end of the payload.

A version has 64 bits on the way, but those above the lower half are taken.  The highest word stands
for no version, so the change that carries it arrives as one without a version; all the others are
refused.  No change arrives with a version that it did not have.
-/

namespace ReplicatedStore.Change

open Layout

/-! ## Sizes -/

/-- The size of the payload. -/
def payloadSize (c : Change) : Nat :=
  8 + textSize c.db + textSize c.command + allSize bytesSize c.args

lemma sized_putPayload : Sized putPayload payloadSize := by
  intro c hsize
  rw [payloadSize] at hsize
  have hfour : ∀ b, 4 ≤ bytesSize b := fun b => by simp [bytesSize]
  obtain ⟨db, hdb, hdbLength⟩ := sized_putText c.db (by omega)
  obtain ⟨command, hcommand, hcommandLength⟩ := sized_putText c.command (by omega)
  obtain ⟨args, hargs, hargsLength⟩ := sized_putBytes.putAll hfour c.args (by omega)
  refine ⟨littleEndian 8 (c.version.getD noVersion) ++ db ++ command ++ args, ?_, ?_⟩
  · rw [putPayload, hdb, hcommand, hargs]
    rfl
  · simp only [List.length_append, length_littleEndian]
    rw [hdbLength, hcommandLength, hargsLength, payloadSize]

lemma measured_putPayload : Measured putPayload payloadSize := by
  intro c b h
  obtain ⟨db, hdb, h⟩ := bind_eq_ok h
  obtain ⟨command, hcommand, h⟩ := bind_eq_ok h
  obtain ⟨args, hargs, h⟩ := bind_eq_ok h
  rw [← Except.ok.inj h]
  simp only [List.length_append, length_littleEndian]
  rw [measured_putText c.db db hdb, measured_putText c.command command hcommand,
    measured_putBytes.putAll c.args args hargs, payloadSize]

/-- A change can be written exactly if the size of its payload has 32 bits. -/
lemma encode_isOk_iff (c : Change) :
    (∃ b, c.encode = .ok b) ↔ c.payloadSize < 0x100000000 := by
  constructor
  · rintro ⟨b, h⟩
    obtain ⟨payload, hpayload, h⟩ := bind_eq_ok h
    obtain ⟨sealed, hsealed, -⟩ := bind_eq_ok h
    rw [← measured_putPayload c payload hpayload]
    exact (putBlob_eq_ok hsealed).1
  · intro hsize
    obtain ⟨payload, hpayload, hlength⟩ := sized_putPayload c hsize
    obtain ⟨sealed, hsealed⟩ := putBlob_of_lt (hlength ▸ hsize : payload.length < 0x100000000)
    refine ⟨magic ++ formatVersion :: sealed, ?_⟩
    rw [encode, hpayload]
    show (do return magic ++ formatVersion :: (← putBlob payload)) = _
    rw [hsealed]
    rfl

/-! ## Versions in the upper half of the word -/

/-- A word with its highest bit set is refused, unless it is the one that stands for no version. -/
lemma refuses_takeVersion {v : Nat} (hhigh : 0x8000000000000000 ≤ v) (hlow : v < noVersion) :
    Refuses takeVersion (littleEndian 8 v)
      (.invalidData (.negativeVersion ((v : Int) - 0x10000000000000000))) := by
  have hword : v < 256 ^ 8 := by
    rw [noVersion] at hlow
    omega
  intro rest
  unfold takeVersion
  rw [bind_of_reads (reads_takeNumber hword), if_neg (Nat.ne_of_lt hlow),
    if_neg (Nat.not_lt.mpr hhigh)]
  rfl

/-- Such a word makes the change be refused. -/
lemma refuses_takeChange {c : Change} {b : Bytes} (h : c.encode = .ok b) {v : Nat}
    (hversion : c.version = some v) (hhigh : 0x8000000000000000 ≤ v) (hlow : v < noVersion) :
    Refuses takeChange b
      (.invalidData (.negativeVersion ((v : Int) - 0x10000000000000000))) := by
  obtain ⟨payload, hpayload, h⟩ := bind_eq_ok h
  obtain ⟨sealed, hsealed, h⟩ := bind_eq_ok h
  obtain rfl := Except.ok.inj h
  -- It is what the payload starts with, so nothing else of the payload is looked at.
  have hrefuses : Refuses takePayload payload
      (.invalidData (.negativeVersion ((v : Int) - 0x10000000000000000))) := by
    obtain ⟨db, -, hput⟩ := bind_eq_ok hpayload
    obtain ⟨command, -, hput⟩ := bind_eq_ok hput
    obtain ⟨args, -, hput⟩ := bind_eq_ok hput
    rw [← Except.ok.inj hput, hversion, Option.getD_some, List.append_assoc, List.append_assoc]
    exact (refuses_takeVersion hhigh hlow).bind _ _
  rw [show magic ++ formatVersion :: sealed = (magic ++ [formatVersion]) ++ (sealed ++ []) by simp]
  exact reads_takeHeader.refuses
    ((takeBlob_putBlob payload sealed hsealed).refuses hrefuses.within)

/-- The change without its version. -/
def withoutVersion (c : Change) : Change :=
  { c with version := none }

/-- The highest word is written as no version is. -/
lemma encode_withoutVersion {c : Change} (h : c.version = some noVersion) :
    c.withoutVersion.encode = c.encode := by
  unfold encode putPayload
  rw [h]
  rfl

/-! ## Round trip -/

/-- **Changes arrive as they are, or without a version, or not at all.**  A change, whose version
has 64 bits:

* can be written exactly if its payload has fewer than 2^32 octets;
* is read back as it was, whatever follows it, if it has no version or one below 2^63;
* is refused for its version otherwise, except that with the highest version of all it is read as
  the same change without a version. -/
theorem carried (c : Change) (hword : ∀ v, c.version = some v → v < 0x10000000000000000) :
    ((∃ b, c.encode = .ok b) ↔ c.payloadSize < 0x100000000) ∧
    ∀ b, c.encode = .ok b → ∀ rest,
      ((∀ v, c.version = some v → v < 0x8000000000000000) → decode (b ++ rest) = .ok c) ∧
      ∀ v, c.version = some v → 0x8000000000000000 ≤ v →
        decode (b ++ rest) =
          if v = 0xFFFFFFFFFFFFFFFF then .ok c.withoutVersion
          else .error (.invalidData (.negativeVersion ((v : Int) - 0x10000000000000000))) := by
  refine ⟨c.encode_isOk_iff, fun b h rest => ⟨?_, ?_⟩⟩
  · intro hplain
    exact (reads_takeChange hplain h).parse_append rest
  · intro v hversion hhigh
    by_cases hnone : v = 0xFFFFFFFFFFFFFFFF
    · subst hnone
      have hplain : c.withoutVersion.HasPlainVersion := fun v hv => nomatch hv
      rw [← encode_withoutVersion hversion] at h
      rw [if_pos rfl]
      exact (reads_takeChange hplain h).parse_append rest
    · have hlow : v < noVersion := by
        have hlt := hword v hversion
        rw [noVersion]
        omega
      rw [if_neg hnone]
      exact (refuses_takeChange h hversion hhigh hlow).parse_append rest

/-- A change with arguments, the last of which is empty. -/
def emptying (version : Nat) : Change :=
  ⟨"0", "set", [Bytes.ofText "k", []], some version⟩

/-- It arrives with the highest plain version; with the next one it does not, and with the highest
of all it arrives without a version. -/
theorem carried_brink :
    (∃ b, (emptying 0x7FFFFFFFFFFFFFFF).encode = .ok b ∧
      decode b = .ok (emptying 0x7FFFFFFFFFFFFFFF)) ∧
    (∃ b, (emptying 0x8000000000000000).encode = .ok b ∧
      decode b = .error (.invalidData (.negativeVersion (-0x8000000000000000)))) ∧
    ∃ b, (emptying 0xFFFFFFFFFFFFFFFF).encode = .ok b ∧
      decode b = .ok ⟨"0", "set", [Bytes.ofText "k", []], none⟩ := by
  have hword : ∀ version < 0x10000000000000000, ∀ v, (emptying version).version = some v →
      v < 0x10000000000000000 := by
    rintro version hlt v ⟨⟩
    exact hlt
  have hsize : ∀ version, (emptying version).payloadSize < 0x100000000 := by
    intro version
    show (emptying 0).payloadSize < 0x100000000
    decide
  have hencoded : ∀ version < 0x10000000000000000, ∃ b, (emptying version).encode = .ok b :=
    fun version hlt => (carried (emptying version) (hword version hlt)).1.mpr (hsize version)
  refine ⟨?_, ?_, ?_⟩
  · obtain ⟨b, h⟩ := hencoded 0x7FFFFFFFFFFFFFFF (by decide)
    obtain ⟨hplain, -⟩ := (carried (emptying _) (hword _ (by decide))).2 b h []
    rw [List.append_nil] at hplain
    exact ⟨b, h, hplain (by rintro v ⟨⟩; decide)⟩
  · obtain ⟨b, h⟩ := hencoded 0x8000000000000000 (by decide)
    obtain ⟨-, hhigh⟩ := (carried (emptying _) (hword _ (by decide))).2 b h []
    rw [List.append_nil] at hhigh
    exact ⟨b, h, hhigh _ rfl (by decide)⟩
  · obtain ⟨b, h⟩ := hencoded 0xFFFFFFFFFFFFFFFF (by decide)
    obtain ⟨-, hhigh⟩ := (carried (emptying _) (hword _ (by decide))).2 b h []
    rw [List.append_nil] at hhigh
    exact ⟨b, h, hhigh _ rfl (by decide)⟩

end ReplicatedStore.Change
