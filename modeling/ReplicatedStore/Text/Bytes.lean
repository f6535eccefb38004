/-!
# Octet strings and UTF-8 text

Values, arguments and wire data are arbitrary octets; names of databases, keys and commands are
texts.  `Bytes.ofText` writes a text in UTF-8 and `Bytes.text?` reads it back, refusing what is not
UTF-8; each undoes the other (`text?_ofText`, `text?_eq_some_iff`).  `Bytes.lossyText` reads any
octets, putting U+FFFD where they are not UTF-8.
-/

namespace ReplicatedStore

/-- A string of octets. -/
abbrev Bytes := List UInt8

namespace Bytes

/-- The UTF-8 form of a text. -/
def ofText (s : String) : Bytes :=
  s.toByteArray.data.toList

/-- The text whose UTF-8 form the octets are, if they are UTF-8. -/
def text? (b : Bytes) : Option String :=
  String.fromUTF8? ⟨b.toArray⟩

@[simp] theorem text?_ofText (s : String) : text? (ofText s) = some s := by
  have h : (⟨(ofText s).toArray⟩ : ByteArray) = s.toByteArray := by simp [ofText]
  unfold text? String.fromUTF8?
  rw [h, dif_pos s.isValidUTF8]
  rfl

theorem eq_ofText_of_text? {b : Bytes} {s : String} (h : text? b = some s) : b = ofText s := by
  unfold text? String.fromUTF8? at h
  split at h
  · cases h; simp [ofText, String.fromUTF8]
  · cases h

theorem text?_eq_some_iff {b : Bytes} {s : String} : text? b = some s ↔ b = ofText s :=
  ⟨eq_ofText_of_text?, fun h => h ▸ text?_ofText s⟩

theorem ofText_injective {s t : String} (h : ofText s = ofText t) : s = t := by
  have := text?_ofText s
  rw [h, text?_ofText] at this
  exact (Option.some.inj this).symm

@[simp] theorem ofText_append (s t : String) : ofText (s ++ t) = ofText s ++ ofText t := by
  simp [ofText, String.toByteArray_append]

/-! ## Reading any octets as text -/

/-- U+FFFD, which stands for octets that are not UTF-8. -/
def replacement : Char := Char.ofNat 0xFFFD

/-- Takes `count` continuation octets onto the scalar value read so far.  When one is missing, the
octets taken so far become one replacement character and reading goes on at the octet found
instead. -/
def takeContinuations : Nat → Nat → Bytes → Char × Bytes
  | 0, scalar, rest => (Char.ofNat scalar, rest)
  | _ + 1, _, [] => (replacement, [])
  | count + 1, scalar, b :: rest =>
    if 0x80 ≤ b ∧ b ≤ 0xBF then takeContinuations count (scalar * 64 + (b.toNat - 0x80)) rest
    else (replacement, b :: rest)

/-- Like `takeContinuations`, where the first continuation octet is further held to a range: the
lead octets E0, ED, F0 and F4 leave only part of the continuation range open, which shuts out
overlong forms, surrogates and values past U+10FFFF. -/
def takeRestricted (low high : UInt8) (count scalar : Nat) : Bytes → Char × Bytes
  | [] => (replacement, [])
  | b :: rest =>
    if low ≤ b ∧ b ≤ high then takeContinuations count (scalar * 64 + (b.toNat - 0x80)) rest
    else (replacement, b :: rest)

/-- Reads the character that starts with octet `b`: the character, or U+FFFD for the longest part of
it that is there, and the octets after it. -/
def takeChar (b : UInt8) (rest : Bytes) : Char × Bytes :=
  if b < 0x80 then (Char.ofNat b.toNat, rest)
  else if b < 0xC2 then (replacement, rest)
  else if b < 0xE0 then takeRestricted 0x80 0xBF 0 (b.toNat - 0xC0) rest
  else if b = 0xE0 then takeRestricted 0xA0 0xBF 1 0 rest
  else if b = 0xED then takeRestricted 0x80 0x9F 1 0xD rest
  else if b < 0xF0 then takeRestricted 0x80 0xBF 1 (b.toNat - 0xE0) rest
  else if b = 0xF0 then takeRestricted 0x90 0xBF 2 0 rest
  else if b < 0xF4 then takeRestricted 0x80 0xBF 2 (b.toNat - 0xF0) rest
  else if b = 0xF4 then takeRestricted 0x80 0x8F 2 4 rest
  else (replacement, rest)

theorem length_takeContinuations (count scalar : Nat) (rest : Bytes) :
    (takeContinuations count scalar rest).2.length ≤ rest.length := by
  induction count generalizing scalar rest with
  | zero => exact Nat.le_refl _
  | succ count ih =>
    cases rest with
    | nil => exact Nat.le_refl _
    | cons b rest =>
      simp only [takeContinuations]
      split
      · exact Nat.le_succ_of_le (ih _ rest)
      · exact Nat.le_refl _

theorem length_takeRestricted (low high : UInt8) (count scalar : Nat) (rest : Bytes) :
    (takeRestricted low high count scalar rest).2.length ≤ rest.length := by
  cases rest with
  | nil => exact Nat.le_refl _
  | cons b rest =>
    simp only [takeRestricted]
    split
    · exact Nat.le_succ_of_le (length_takeContinuations _ _ rest)
    · exact Nat.le_refl _

theorem length_takeChar (b : UInt8) (rest : Bytes) : (takeChar b rest).2.length ≤ rest.length := by
  unfold takeChar
  repeat' split
  all_goals first | exact Nat.le_refl _ | exact length_takeRestricted _ _ _ _ rest

/-- The characters of any octets: each longest part that is the start of a character but not a whole
one, and each octet that starts none, gives one U+FFFD. -/
def lossyChars (b : Bytes) : List Char :=
  match b with
  | [] => []
  | first :: rest =>
    have := length_takeChar first rest
    (takeChar first rest).1 :: lossyChars (takeChar first rest).2
termination_by b.length
decreasing_by simp only [List.length_cons]; omega

/-- Any octets as text.  UTF-8 is read as it is; elsewhere U+FFFD stands for what is not UTF-8. -/
def lossyText (b : Bytes) : String :=
  match b.text? with
  | some s => s
  | none => String.ofList b.lossyChars

@[simp] theorem lossyText_ofText (s : String) : lossyText (ofText s) = s := by
  simp [lossyText]

end Bytes

end ReplicatedStore
