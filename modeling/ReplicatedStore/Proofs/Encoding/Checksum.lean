import Mathlib.Logic.Function.Basic
import Mathlib.Tactic.Common
import ReplicatedStore.Encoding.Checksum

/-!
# What the checksum tells apart

Octets that differ in one place have different checksums (`crc32_set`), however many there are.

A division step loses nothing: the polynomial has its highest coefficient, so the highest bit of the
register after the step is the bit that dropped out of it (`highBit_shiftBit`).  So the register
after an octet tells the register before it, where the octet is known, and the octet, where the
register is known; a difference that has once come into the register stays there.
-/

namespace ReplicatedStore.Checksum

/-! ## One division step -/

/-- The bit of the register that drops out next. -/
def lowBit (register : UInt32) : Bool :=
  register.toBitVec.getLsbD 0

lemma and_one_eq_one_iff (register : UInt32) : register &&& 1 = 1 ↔ lowBit register := by
  have hand : (register &&& 1).toBitVec =
      BitVec.setWidth 32 (BitVec.ofBool (lowBit register)) := by
    rw [UInt32.toBitVec_and]
    exact BitVec.and_one_eq_setWidth_ofBool_getLsbD
  rw [← UInt32.toBitVec_inj, hand]
  cases lowBit register <;> decide

/-- The step on the bits of the register. -/
lemma toBitVec_shiftBit (register : UInt32) :
    (shiftBit register).toBitVec =
      if lowBit register then (register.toBitVec >>> 1) ^^^ polynomial.toBitVec
      else register.toBitVec >>> 1 := by
  simp only [shiftBit, and_one_eq_one_iff]
  split <;> simp

/-- The bit that drops out is the highest one afterwards. -/
lemma highBit_shiftBit (register : UInt32) :
    (shiftBit register).toBitVec.getLsbD 31 = lowBit register := by
  have hpolynomial : polynomial.toBitVec.getLsbD 31 = true := by decide
  have hfree : (register.toBitVec >>> 1).getLsbD 31 = false := by simp
  rw [toBitVec_shiftBit]
  by_cases hlow : lowBit register
  · rw [if_pos hlow, BitVec.getLsbD_xor, hfree, hpolynomial, hlow]
    rfl
  · rw [if_neg hlow, hfree, eq_false_of_ne_true hlow]

lemma shiftBit_injective : Function.Injective shiftBit := by
  intro r q h
  have hlow : lowBit r = lowBit q := by
    rw [← highBit_shiftBit r, ← highBit_shiftBit q, h]
  -- The same bit dropped out of both, so both took the polynomial or neither did.
  have hrest : r.toBitVec >>> 1 = q.toBitVec >>> 1 := by
    have hbits := congrArg UInt32.toBitVec h
    rw [toBitVec_shiftBit, toBitVec_shiftBit, hlow] at hbits
    split at hbits
    · exact (BitVec.xor_left_inj _).mp hbits
    · exact hbits
  apply UInt32.toBitVec_inj.mp
  apply BitVec.eq_of_getLsbD_eq
  intro i _
  cases i with
  | zero => exact hlow
  | succ i =>
    have hbit := congrArg (fun bits : BitVec 32 => bits.getLsbD i) hrest
    simpa [BitVec.getLsbD_ushiftRight, Nat.add_comm] using hbit

/-! ## Octets -/

lemma shiftBits_injective (n : Nat) : Function.Injective (shiftBits n) := by
  induction n with
  | zero => exact Function.injective_id
  | succ n ih => exact ih.comp shiftBit_injective

/-- After a known octet the register tells what it was before. -/
lemma feed_injective_register (b : UInt8) : Function.Injective fun register => feed register b :=
  fun _ _ h => (UInt32.xor_left_inj _).mp (shiftBits_injective 8 h)

/-- From a known register it tells the octet. -/
lemma feed_injective (register : UInt32) : Function.Injective (feed register) :=
  fun _ _ h => UInt8.toUInt32_inj.mp ((UInt32.xor_right_inj _).mp (shiftBits_injective 8 h))

/-- The same octets after it do not hide a difference in the register. -/
lemma foldl_feed_injective (rest : Bytes) :
    Function.Injective fun register => rest.foldl feed register := by
  induction rest with
  | nil => exact Function.injective_id
  | cons b rest ih => exact ih.comp (feed_injective_register b)

/-- Equal checksums of octets that are equal around one place are those of equal octets. -/
lemma crc32_injective_at (before after : Bytes) :
    Function.Injective fun x : UInt8 => crc32 (before ++ x :: after) := by
  intro x y h
  have hregister := (UInt32.xor_left_inj _).mp h
  rw [List.foldl_append, List.foldl_append, List.foldl_cons, List.foldl_cons] at hregister
  exact feed_injective _ (foldl_feed_injective after hregister)

/-- **One octet that is another changes the checksum.** -/
theorem crc32_set {b : Bytes} {i : Nat} {x : UInt8} (h : b.set i x ≠ b) :
    crc32 (b.set i x) ≠ crc32 b := by
  intro hsum
  have hi : i < b.length := by
    by_contra hout
    exact h (List.set_eq_of_length_le (Nat.not_lt.mp hout))
  obtain ⟨before, after, hb, -, hset⟩ : ∃ before after, b = before ++ b[i] :: after ∧
      before.length = i ∧ b.set i x = before ++ x :: after := List.exists_of_set hi
  have hsame : x = b[i] := by
    apply crc32_injective_at before after
    dsimp only
    rw [← hset, ← hb, hsum]
  apply h
  rw [hset, hsame]
  exact hb.symm

end ReplicatedStore.Checksum
