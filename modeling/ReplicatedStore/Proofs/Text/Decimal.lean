import Mathlib.Tactic.Common
import ReplicatedStore.Text.Decimal

/-!
# Integers as they are recorded

A recorded change gives its integers as texts, and a replica reads them back.  What `Decimal.ofInt`
writes, `Decimal.read?` reads as the same integer when it is one of 64 bits (`read?_ofInt`), and
what is read is one of 64 bits (`fitsSigned64_of_read?`), so that every integer that was read once
is also read back from the record.
-/

namespace ReplicatedStore.Decimal

/-- The octets of a text that starts with a character of ASCII. -/
lemma ofText_cons {c : Char} (h : c.utf8Size = 1) (cs : List Char) :
    Bytes.ofText (String.ofList (c :: cs)) =
      UInt8.ofNat c.toNat :: Bytes.ofText (String.ofList cs) := by
  have hsplit : String.ofList (c :: cs) = String.ofList [c] ++ String.ofList cs := by
    rw [← String.ofList_append, List.singleton_append]
  have hfirst : Bytes.ofText (String.ofList [c]) = [UInt8.ofNat c.toNat] := by
    rw [Bytes.ofText, String.toByteArray_ofList, List.utf8Encode_singleton,
      String.utf8EncodeChar_eq_singleton h]
    rfl
  rw [hsplit, Bytes.ofText_append, hfirst, List.singleton_append]

lemma toNat_of_isDigit {c : Char} (h : c.isDigit) : 48 ≤ c.toNat ∧ c.toNat ≤ 57 := by
  simpa using Char.isDigit_iff_toNat.mp h

lemma utf8Size_of_isDigit {c : Char} (h : c.isDigit) : c.utf8Size = 1 := by
  rw [Char.utf8Size_eq_one_iff, UInt32.le_iff_toNat_le]
  have hrange := toNat_of_isDigit h
  show c.toNat ≤ 127
  omega

/-- The octet of a digit is read as the digit. -/
lemma digitValue?_of_isDigit {c : Char} (h : c.isDigit) :
    digitValue? (UInt8.ofNat c.toNat) = some (c.toNat - 48) := by
  obtain ⟨hlow, hhigh⟩ := toNat_of_isDigit h
  have hoctet : (UInt8.ofNat c.toNat).toNat = c.toNat := by
    rw [UInt8.toNat_ofNat']
    omega
  have hwithin : 0x30 ≤ UInt8.ofNat c.toNat ∧ UInt8.ofNat c.toNat ≤ 0x39 := by
    constructor
    · rw [UInt8.le_iff_toNat_le, hoctet]
      exact hlow
    · rw [UInt8.le_iff_toNat_le, hoctet]
      exact hhigh
  rw [digitValue?, if_pos hwithin, hoctet]

lemma le_ofDigitChars (cs : List Char) (value : Nat) : value ≤ Nat.ofDigitChars 10 cs value := by
  induction cs generalizing value with
  | nil => simp
  | cons c rest ih =>
    rw [Nat.ofDigitChars_cons]
    have := ih (10 * value + (c.toNat - '0'.toNat))
    omega

/-- Digits are read as the number that they denote, unless it is too large. -/
lemma readDigits_ofText {cs : List Char} (hcs : ∀ c ∈ cs, c.isDigit) {limit value : Nat}
    (hlimit : Nat.ofDigitChars 10 cs value ≤ limit) (overflow : Error) :
    readDigits limit overflow value (Bytes.ofText (String.ofList cs)) =
      .ok (Nat.ofDigitChars 10 cs value) := by
  induction cs generalizing value with
  | nil => simp [Bytes.ofText, readDigits]
  | cons c rest ih =>
    have hc := hcs c List.mem_cons_self
    rw [Nat.ofDigitChars_cons, Nat.mul_comm] at hlimit ⊢
    have hnext := Nat.le_trans (le_ofDigitChars rest _) hlimit
    have hzero : '0'.toNat = 48 := rfl
    rw [hzero] at hlimit hnext ⊢
    rw [ofText_cons (utf8Size_of_isDigit hc), readDigits, digitValue?_of_isDigit hc]
    simp only [hnext, if_true]
    exact ih (fun d hd => hcs d (List.mem_cons_of_mem _ hd)) hlimit

/-! ## Numbers and their signs -/

lemma isDigit_toDigits (n : Nat) : ∀ c ∈ Nat.toDigits 10 n, c.isDigit :=
  fun _ hc => Nat.isDigit_of_mem_toDigits (by decide) (by decide) hc

lemma readUnsigned_ofNat {n limit : Nat} (h : n ≤ limit) (overflow : Error) :
    readUnsigned limit overflow (Bytes.ofText (ofNat n)) = .ok n := by
  have hvalue : Nat.ofDigitChars 10 (Nat.toDigits 10 n) 0 = n := Nat.ofDigitChars_ten_toDigits
  have hread := readDigits_ofText (isDigit_toDigits n) (hvalue.symm ▸ h) overflow
  rw [hvalue] at hread
  unfold ofNat
  cases hdigits : Nat.toDigits 10 n with
  | nil => exact absurd hdigits Nat.toDigits_ne_nil
  | cons c rest =>
    have hc : c.isDigit := isDigit_toDigits n c (by rw [hdigits]; exact List.mem_cons_self)
    rw [hdigits, ofText_cons (utf8Size_of_isDigit hc)] at hread
    rw [ofText_cons (utf8Size_of_isDigit hc)]
    exact hread

/-- The text of a number starts with no sign. -/
lemma read_ofNat {n : Nat} {limits : Limits} (h : n ≤ limits.above) :
    read limits (Bytes.ofText (ofNat n)) = .ok (n : Int) := by
  have hread := readUnsigned_ofNat h .tooLarge
  unfold ofNat at hread ⊢
  cases hdigits : Nat.toDigits 10 n with
  | nil => exact absurd hdigits Nat.toDigits_ne_nil
  | cons c rest =>
    have hc : c.isDigit := isDigit_toDigits n c (by rw [hdigits]; exact List.mem_cons_self)
    have hoctet : (UInt8.ofNat c.toNat).toNat = c.toNat := by
      have := toNat_of_isDigit hc
      rw [UInt8.toNat_ofNat']
      omega
    have hplus : ¬ UInt8.ofNat c.toNat = 0x2B := by
      intro hsign
      have := toNat_of_isDigit hc
      rw [hsign] at hoctet
      change 43 = c.toNat at hoctet
      omega
    have hminus : ¬ UInt8.ofNat c.toNat = 0x2D := by
      intro hsign
      have := toNat_of_isDigit hc
      rw [hsign] at hoctet
      change 45 = c.toNat at hoctet
      omega
    rw [hdigits] at hread
    rw [ofText_cons (utf8Size_of_isDigit hc)] at hread ⊢
    rw [read, if_neg hplus, if_neg (fun hboth => hminus hboth.1), hread]
    rfl

/-- A minus sign turns the number after it round. -/
lemma read_minus {n : Nat} {limits : Limits} (hsigned : limits.below ≠ 0)
    (h : n ≤ limits.below) :
    read limits (Bytes.ofText ("-" ++ ofNat n)) = .ok (-(n : Int)) := by
  have hminus : Bytes.ofText "-" = [0x2D] := by decide
  rw [Bytes.ofText_append, hminus, List.singleton_append, read, if_neg (by decide),
    if_pos ⟨rfl, hsigned⟩, readUnsigned_ofNat h]
  rfl

/-- An integer of 64 bits is read back from its text. -/
theorem read?_ofInt {i : Int} (h : fitsSigned64 i) :
    read? signed64 (Bytes.ofText (ofInt i)) = some i := by
  have hrange : -0x8000000000000000 ≤ i ∧ i < 0x8000000000000000 := by
    simpa [fitsSigned64] using h
  unfold read?
  cases i with
  | ofNat n =>
    have hn : n ≤ signed64.above := by
      show n ≤ 0x7FFFFFFFFFFFFFFF
      have : (n : Int) < 0x8000000000000000 := hrange.2
      omega
    rw [ofInt, read_ofNat hn]
    rfl
  | negSucc n =>
    have hn : n + 1 ≤ signed64.below := by
      show n + 1 ≤ 0x8000000000000000
      have := hrange.1
      omega
    rw [ofInt, read_minus (by decide) hn]
    rfl

/-! ## What is read is within the limits -/

lemma readDigits_le {limit value n : Nat} {overflow : Error} (hvalue : value ≤ limit)
    {b : Bytes} (h : readDigits limit overflow value b = .ok n) : n ≤ limit := by
  induction b generalizing value with
  | nil =>
    cases h
    exact hvalue
  | cons octet rest ih =>
    rw [readDigits] at h
    split at h
    · cases h
    · split at h
      · rename_i hnext
        exact ih hnext h
      · cases h

lemma readUnsigned_le {limit n : Nat} {overflow : Error} {b : Bytes}
    (h : readUnsigned limit overflow b = .ok n) : n ≤ limit := by
  cases b with
  | nil => cases h
  | cons octet rest => exact readDigits_le (Nat.zero_le _) h

lemma map_eq_ok {α β ε : Type} {f : α → β} {x : Except ε α} {b : β} (h : x.map f = .ok b) :
    ∃ a, x = .ok a ∧ f a = b := by
  cases x with
  | error fault => cases h
  | ok a => exact ⟨a, rfl, Except.ok.inj h⟩

/-- Nothing is refused where an integer is read. -/
lemma read_of_read? {limits : Limits} {b : Bytes} {i : Int} (h : read? limits b = some i) :
    read limits b = .ok i := by
  unfold read? at h
  cases hb : read limits b with
  | error fault =>
    rw [hb] at h
    cases h
  | ok j =>
    rw [hb] at h
    rw [Option.some.inj h]

/-- An integer that is read without a sign is a natural number. -/
lemma natural_of_read? {limits : Limits} (hbelow : limits.below = 0) {b : Bytes} {i : Int}
    (h : read? limits b = some i) : ∃ n : Nat, n ≤ limits.above ∧ (n : Int) = i := by
  have hread := read_of_read? h
  cases b with
  | nil => cases hread
  | cons octet rest =>
    rw [read] at hread
    split at hread
    · obtain ⟨n, hn, rfl⟩ := map_eq_ok hread
      exact ⟨n, readUnsigned_le hn, rfl⟩
    · rw [if_neg fun hminus => hminus.2 hbelow] at hread
      obtain ⟨n, hn, rfl⟩ := map_eq_ok hread
      exact ⟨n, readUnsigned_le hn, rfl⟩

/-- An integer that is read is one of 64 bits. -/
theorem fitsSigned64_of_read? {b : Bytes} {i : Int} (h : read? signed64 b = some i) :
    fitsSigned64 i := by
  have hread := read_of_read? h
  have hfits : (∃ n : Nat, n ≤ signed64.above ∧ Int.ofNat n = i) ∨
      ∃ n : Nat, n ≤ signed64.below ∧ -Int.ofNat n = i := by
    cases b with
    | nil => cases hread
    | cons octet rest =>
      rw [read] at hread
      split at hread
      · obtain ⟨n, hn, rfl⟩ := map_eq_ok hread
        exact .inl ⟨n, readUnsigned_le hn, rfl⟩
      · split at hread
        · obtain ⟨n, hn, rfl⟩ := map_eq_ok hread
          exact .inr ⟨n, readUnsigned_le hn, rfl⟩
        · obtain ⟨n, hn, rfl⟩ := map_eq_ok hread
          exact .inl ⟨n, readUnsigned_le hn, rfl⟩
  have habove : signed64.above = 0x7FFFFFFFFFFFFFFF := rfl
  have hbelow : signed64.below = 0x8000000000000000 := rfl
  simp only [fitsSigned64, Bool.and_eq_true, decide_eq_true_eq]
  rcases hfits with ⟨n, hn, rfl⟩ | ⟨n, hn, rfl⟩
  · rw [Int.ofNat_eq_natCast]
    omega
  · rw [Int.ofNat_eq_natCast]
    omega

/-! ## Texts of integers -/

/-- A text that denotes an integer of 64 bits, with a plus sign and zeros in front or without. -/
structure Numeral where
  /-- The text. -/
  text : String
  /-- The integer that it denotes. -/
  value : Int
  /-- It is read as this integer. -/
  reads : read? signed64 (Bytes.ofText text) = some value

lemma Numeral.fits (a : Numeral) : fitsSigned64 a.value :=
  fitsSigned64_of_read? a.reads

/-- The text that is written for an integer. -/
def Numeral.ofInt {i : Int} (h : fitsSigned64 i) : Numeral :=
  ⟨Decimal.ofInt i, i, read?_ofInt h⟩

end ReplicatedStore.Decimal
