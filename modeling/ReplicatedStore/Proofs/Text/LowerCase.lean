import Mathlib.Tactic.Common
import ReplicatedStore.Text.LowerCase

/-!
# Words in any letters

Names of commands and options are compared in small letters, under the full mapping of Unicode.
For a word of small Latin letters without k this accepts the word in any mixture of small and
capital Latin letters, and nothing else (`lowercase_eq_iff`): outside ASCII the mapping leads to
small Latin letters in two places only, from the Kelvin sign to k, and from the dotted capital I to
an i that a combining dot follows.
-/

namespace ReplicatedStore.Text

/-- Is the text the word, in letters of any case? -/
def IsSpelling (word text : String) : Prop :=
  text.toList.map Char.toLower = word.toList

instance (word text : String) : Decidable (IsSpelling word text) :=
  inferInstanceAs (Decidable (_ = _))

/-- A small Latin letter other than k.  It is the small form of no character outside ASCII. -/
def IsLatinOnly (c : Char) : Prop :=
  0x61 ≤ c.toNat ∧ c.toNat ≤ 0x7A ∧ c.toNat ≠ 0x6B

instance (c : Char) : Decidable (IsLatinOnly c) :=
  inferInstanceAs (Decidable (_ ∧ _))

/-! ## Characters outside ASCII -/

/-- The ends of every run tell that its images are outside ASCII, unless it is the run of the Latin
capitals or maps the Kelvin sign. -/
lemma lowerCaseRuns_ends : ∀ r ∈ Property.lowerCaseRuns,
    r.last < 0x80 ∨ 0x80 ≤ r.first + r.shift ∨ (r.first = 0x212A ∧ r.last = 0x212A ∧
      r.first + r.shift = 0x6B) := by
  decide +kernel

/-- What a run maps a code point outside ASCII to is no such letter. -/
lemma image_not_latinOnly {n m : Nat} (hn : 0x80 ≤ n)
    (h : Property.lowerCaseRuns.findSome? (·.image? n) = some m) :
    ¬ IsLatinOnly (Char.ofNat m) := by
  obtain ⟨r, hr, himage⟩ := Array.exists_of_findSome?_eq_some h
  unfold Property.CaseRun.image? at himage
  split at himage
  case isFalse => cases himage
  case isTrue hcovers =>
    have hm : (n + r.shift).toNat = m := Option.some.inj himage
    have hbetween : r.first ≤ n ∧ n ≤ r.last := by
      simp only [Property.CaseRun.covers, Bool.and_eq_true, decide_eq_true_eq] at hcovers
      exact hcovers.1
    by_cases hvalid : m.isValidChar
    · have hcode : (Char.ofNat m).toNat = m := by
        rw [Char.ofNat, dif_pos hvalid]
        rfl
      rw [IsLatinOnly, hcode]
      rcases lowerCaseRuns_ends r hr with hlast | hfirst | ⟨hfirst, hlast, hkelvin⟩ <;> omega
    · rw [Char.ofNat, dif_neg hvalid]
      decide

/-- A character outside ASCII leaves something that is no such letter. -/
lemma exists_not_latinOnly_lowerChar {c : Char} (hc : 0x80 ≤ c.toNat) :
    ∃ d ∈ lowerChar c, ¬ IsLatinOnly d := by
  rw [lowerChar, if_neg (by omega)]
  split
  case isTrue => exact ⟨Char.ofNat 0x307, by simp, by decide⟩
  case isFalse =>
    split
    case h_1 m himage => exact ⟨_, List.mem_singleton_self _, image_not_latinOnly hc himage⟩
    case h_2 =>
      refine ⟨c, List.mem_singleton_self _, fun hlatin => ?_⟩
      unfold IsLatinOnly at hlatin
      omega

/-- Neither form of a sigma is such a letter. -/
lemma lowerSigma_not_latinOnly (before after : List Char) :
    ¬ IsLatinOnly (lowerSigma before after) := by
  unfold lowerSigma
  split <;> decide

/-! ## Texts -/

/-- Only characters of ASCII give such letters alone. -/
lemma ascii_of_lowerChars {cs : List Char} (before : List Char)
    (h : ∀ d ∈ lowerChars before cs, IsLatinOnly d) : ∀ c ∈ cs, c.toNat < 0x80 := by
  induction cs generalizing before with
  | nil => exact fun c hc => absurd hc List.not_mem_nil
  | cons c rest ih =>
    rw [lowerChars, List.forall_mem_append] at h
    obtain ⟨hhead, htail⟩ := h
    refine List.forall_mem_cons.mpr ⟨?_, ih (c :: before) htail⟩
    by_contra hc
    split at hhead
    case isTrue =>
      exact lowerSigma_not_latinOnly before rest (hhead _ (List.mem_singleton_self _))
    case isFalse =>
      obtain ⟨d, hd, hlatin⟩ := exists_not_latinOnly_lowerChar (Nat.le_of_not_lt hc)
      exact hlatin (hhead d hd)

/-- Characters of ASCII are put in small letters one by one. -/
lemma lowerChars_of_ascii {cs : List Char} (before : List Char) (h : ∀ c ∈ cs, c.toNat < 0x80) :
    lowerChars before cs = cs.map Char.toLower := by
  induction cs generalizing before with
  | nil => rfl
  | cons c rest ih =>
    obtain ⟨hc, hrest⟩ := List.forall_mem_cons.mp h
    have hsigma : c ≠ capitalSigma := by
      rintro rfl
      exact absurd hc (by decide)
    rw [lowerChars, if_neg hsigma, lowerChar, if_pos hc, ih (c :: before) hrest]
    rfl

/-- Only capital Latin letters have another form here. -/
lemma ascii_of_latinOnly_toLower {c : Char} (h : IsLatinOnly c.toLower) : c.toNat < 0x80 := by
  unfold Char.toLower at h
  split at h
  case isTrue hcapital =>
    have hlast : c.toNat ≤ 90 := UInt32.le_iff_toNat_le.mp hcapital.2
    omega
  case isFalse =>
    unfold IsLatinOnly at h
    omega

/-- **A word of such letters is met in any letters**, and by no other text. -/
theorem lowercase_eq_iff {word : String} (hword : word.toList.all fun c => IsLatinOnly c)
    (text : String) : lowercase text = word ↔ IsSpelling word text := by
  have hletters : ∀ c ∈ word.toList, IsLatinOnly c := fun c hc =>
    of_decide_eq_true (List.all_eq_true.mp hword c hc)
  have hchars : lowercase text = word ↔ lowerChars [] text.toList = word.toList := by
    rw [lowercase, ← String.toList_inj, String.toList_ofList]
  rw [hchars, IsSpelling]
  constructor
  · intro h
    have hascii := ascii_of_lowerChars [] (h ▸ hletters)
    rw [← h, lowerChars_of_ascii [] hascii]
  · intro h
    have hascii : ∀ c ∈ text.toList, c.toNat < 0x80 := by
      intro c hc
      refine ascii_of_latinOnly_toLower (hletters _ ?_)
      rw [← h]
      exact List.mem_map_of_mem hc
    rw [lowerChars_of_ascii [] hascii, h]

end ReplicatedStore.Text
