import ReplicatedStore.Encoding.FormatError
import ReplicatedStore.Proofs.Text.Decimal
import ReplicatedStore.Text.Line

/-!
# Texts inside lines

A line end is a carriage return with a line feed right after it, so it may come about where two
texts meet.  It does not where one of them is `Plain`, which is all that is needed to say what a
message with quoted text in it contains.  The first line of what arrived is known once its end is
there (`splitLine?_eq_some`), not before (`splitLine?_of_cut`), and for good
(`splitLine?_append_right`).
-/

namespace ReplicatedStore

namespace Bytes

/-- No octet is a part of a line end. -/
def Plain (b : Bytes) : Prop :=
  ∀ x ∈ b, x ≠ 13 ∧ x ≠ 10

instance (b : Bytes) : Decidable (Plain b) :=
  List.decidableBAll (fun x : UInt8 => x ≠ 13 ∧ x ≠ 10) b

variable {a b : Bytes}

lemma hasLineEnd_cons (x : UInt8) (b : Bytes) :
    hasLineEnd (x :: b) = (decide (x = 13 ∧ b.head? = some 10) || hasLineEnd b) := by
  unfold hasLineEnd
  rw [lineEnd?_cons]
  split
  · rename_i h
    simp [h]
  · rename_i h
    simp [h]

lemma Plain.append (ha : Plain a) (hb : Plain b) : Plain (a ++ b) := by
  intro x hx
  rcases List.mem_append.mp hx with h | h
  · exact ha x h
  · exact hb x h

/-- What stands before a text brings no line end to it. -/
lemma hasLineEnd_plain_append (h : Plain a) (b : Bytes) : hasLineEnd (a ++ b) = hasLineEnd b := by
  induction a with
  | nil => rfl
  | cons x rest ih =>
    have hx := (h x List.mem_cons_self).1
    rw [List.cons_append, hasLineEnd_cons, ih fun y hy => h y (List.mem_cons_of_mem _ hy)]
    simp [hx]

/-- No line end comes about where the second text starts, unless it starts with a line feed. -/
lemma hasLineEnd_append (h : b.head? ≠ some 10) (a : Bytes) :
    hasLineEnd (a ++ b) = (hasLineEnd a || hasLineEnd b) := by
  induction a with
  | nil => rfl
  | cons x rest ih =>
    have hhead : (rest ++ b).head? = some 10 ↔ rest.head? = some 10 := by
      cases rest with
      | nil => simp [h]
      | cons y others => simp
    rw [List.cons_append, hasLineEnd_cons, hasLineEnd_cons, ih, Bool.or_assoc]
    simp only [hhead]

/-- What stands first in octets without a line end has none. -/
lemma hasLineEnd_of_append (h : hasLineEnd (a ++ b) = false) : hasLineEnd a = false := by
  induction a with
  | nil => rfl
  | cons x rest ih =>
    rw [List.cons_append, hasLineEnd_cons, Bool.or_eq_false_iff] at h
    rw [hasLineEnd_cons, ih h.2, Bool.or_false]
    cases rest with
    | nil => simp
    | cons y others => exact h.1

lemma Plain.hasLineEnd (h : Plain a) : hasLineEnd a = false := by
  have hempty := hasLineEnd_plain_append h []
  rw [List.append_nil] at hempty
  exact hempty

/-- What stands after a text brings no line end to it. -/
lemma hasLineEnd_append_plain (h : Plain b) (a : Bytes) : hasLineEnd (a ++ b) = hasLineEnd a := by
  have hhead : b.head? ≠ some 10 := by
    intro hfeed
    exact (h 10 (List.mem_of_mem_head? hfeed)).2 rfl
  rw [hasLineEnd_append hhead, h.hasLineEnd, Bool.or_false]

/-- A line that contains a line end breaks off there, and leaves more than what came after it. -/
lemma splitLine?_of_hasLineEnd (h : hasLineEnd a = true) (after : Bytes) :
    ∃ line rest, splitLine? (a ++ lineEnd ++ after) = some (line, rest) ∧
      after.length < rest.length := by
  induction a with
  | nil => cases h
  | cons x rest ih =>
    rw [List.cons_append, List.cons_append, splitLine?_cons]
    by_cases hend : x = 13 ∧ (rest ++ lineEnd ++ after).head? = some 10
    · rw [if_pos hend]
      refine ⟨[], _, rfl, ?_⟩
      cases rest with
      | nil => exact absurd hend.2 (by simp [lineEnd])
      | cons y others =>
        simp only [lineEnd, List.cons_append, List.tail_cons, List.length_append, List.length_cons]
        omega
    · rw [if_neg hend]
      have hlater : hasLineEnd rest = true := by
        rw [hasLineEnd_cons] at h
        cases rest with
        | nil => simpa using h
        | cons y others =>
          rcases Bool.or_eq_true _ _ ▸ h with hhere | hlater
          · exact absurd (of_decide_eq_true hhere) hend
          · exact hlater
      obtain ⟨line, left, hsplit, hlength⟩ := ih hlater
      rw [hsplit]
      exact ⟨x :: line, left, rfl, hlength⟩

/-- A line stands first exactly when its end comes right after it and no other line end before. -/
lemma splitLine?_eq_some {line after : Bytes} :
    splitLine? a = some (line, after) ↔ a = line ++ lineEnd ++ after ∧ hasLineEnd line = false := by
  constructor
  · intro h
    induction a generalizing line with
    | nil => simp at h
    | cons x rest ih =>
      rw [splitLine?_cons] at h
      by_cases hend : x = 13 ∧ rest.head? = some 10
      · rw [if_pos hend] at h
        obtain ⟨rfl, rfl⟩ := Prod.mk.inj (Option.some.inj h)
        obtain ⟨rfl, hfeed⟩ := hend
        obtain ⟨others, rfl⟩ := List.head?_eq_some_iff.mp hfeed
        exact ⟨rfl, rfl⟩
      · rw [if_neg hend] at h
        obtain ⟨⟨found, left⟩, hfound, hcons⟩ := Option.map_eq_some_iff.mp h
        obtain ⟨rfl, rfl⟩ := Prod.mk.inj hcons
        obtain ⟨rfl, hline⟩ := ih hfound
        have hhere : ¬ (x = 13 ∧ found.head? = some 10) := by
          cases found with
          | nil => simp
          | cons y others => simpa using hend
        rw [hasLineEnd_cons, hline]
        simp [hhere]
  · rintro ⟨rfl, hline⟩
    exact splitLine?_append hline after

/-- The first line stays the first line when more octets come. -/
lemma splitLine?_append_right {line after : Bytes} (h : splitLine? a = some (line, after))
    (more : Bytes) : splitLine? (a ++ more) = some (line, after ++ more) := by
  obtain ⟨rfl, hline⟩ := splitLine?_eq_some.mp h
  rw [List.append_assoc]
  exact splitLine?_append hline (after ++ more)

/-- A line is not seen before the last octet of its end. -/
lemma splitLine?_of_cut {line cut : Bytes} (hline : hasLineEnd line = false)
    (hcut : cut <+: line ++ lineEnd) (hshort : cut.length < line.length + 2) :
    splitLine? cut = none := by
  obtain ⟨rest, hrest⟩ := hcut
  by_contra hsome
  obtain ⟨⟨found, after⟩, hfound⟩ := Option.ne_none_iff_exists'.mp hsome
  have hwhole := splitLine?_append_right hfound rest
  have hsplit := splitLine?_append hline []
  rw [List.append_nil, ← hrest, hwhole] at hsplit
  have hnone : after ++ rest = [] := congrArg Prod.snd (Option.some.inj hsplit)
  have hlength : cut.length + rest.length = line.length + 2 := by
    rw [← List.length_append, hrest]
    simp [lineEnd]
  rw [(List.append_eq_nil_iff.mp hnone).2] at hlength
  simp only [List.length_nil] at hlength
  omega

/-- The octets of ASCII characters are their codes. -/
lemma mem_ofText_ofList {cs : List Char} (h : ∀ c ∈ cs, c.toNat < 128) {x : UInt8}
    (hx : x ∈ ofText (String.ofList cs)) : ∃ c ∈ cs, x.toNat = c.toNat := by
  induction cs with
  | nil => cases hx
  | cons c rest ih =>
    have hc := h c List.mem_cons_self
    have hsize : c.utf8Size = 1 := by
      rw [Char.utf8Size_eq_one_iff, UInt32.le_iff_toNat_le]
      show c.toNat ≤ 127
      omega
    rw [Decimal.ofText_cons hsize] at hx
    rcases List.mem_cons.mp hx with rfl | hlater
    · refine ⟨c, List.mem_cons_self, ?_⟩
      rw [UInt8.toNat_ofNat']
      omega
    · obtain ⟨d, hd, hcode⟩ := ih (fun d hd => h d (List.mem_cons_of_mem _ hd)) hlater
      exact ⟨d, List.mem_cons_of_mem _ hd, hcode⟩

/-- Characters of ASCII that are no part of a line end make a plain text. -/
lemma plain_ofList {cs : List Char} (h : ∀ c ∈ cs, 13 < c.toNat ∧ c.toNat < 128) :
    Plain (ofText (String.ofList cs)) := by
  intro x hx
  obtain ⟨c, hc, hcode⟩ := mem_ofText_ofList (fun d hd => (h d hd).2) hx
  have habove := (h c hc).1
  constructor <;> rintro rfl <;> simp at hcode <;> omega

end Bytes

/-! ## Texts -/

namespace Text

/-- No line end stands in the text. -/
def IsLine (text : String) : Prop :=
  Bytes.hasLineEnd (Bytes.ofText text) = false

/-- No character of the text is a part of a line end. -/
def IsPlain (text : String) : Prop :=
  Bytes.Plain (Bytes.ofText text)

instance (text : String) : Decidable (IsLine text) :=
  inferInstanceAs (Decidable (Bytes.hasLineEnd (Bytes.ofText text) = false))

instance (text : String) : Decidable (IsPlain text) :=
  inferInstanceAs (Decidable (Bytes.Plain (Bytes.ofText text)))

variable {a b : String}

lemma IsPlain.isLine (h : IsPlain a) : IsLine a :=
  h.hasLineEnd

lemma IsPlain.append (ha : IsPlain a) (hb : IsPlain b) : IsPlain (a ++ b) := by
  rw [IsPlain, Bytes.ofText_append]
  exact Bytes.Plain.append ha hb

lemma IsLine.after (h : IsLine b) (ha : IsPlain a) : IsLine (a ++ b) := by
  rw [IsLine, Bytes.ofText_append, Bytes.hasLineEnd_plain_append ha]
  exact h

lemma IsLine.before (h : IsLine a) (hb : IsPlain b) : IsLine (a ++ b) := by
  rw [IsLine, Bytes.ofText_append, Bytes.hasLineEnd_append_plain hb]
  exact h

/-- Two lines make one when something plain stands between them. -/
lemma IsLine.join (ha : IsLine a) (hb : IsLine b) {between : String} (hbetween : IsPlain between)
    (hsome : Bytes.ofText between ≠ []) : IsLine (a ++ between ++ b) := by
  have hrest : Bytes.hasLineEnd (Bytes.ofText between ++ Bytes.ofText b) = false := by
    rw [Bytes.hasLineEnd_plain_append hbetween]
    exact hb
  have hfeed : (Bytes.ofText between ++ Bytes.ofText b).head? ≠ some 10 := by
    obtain ⟨first, others, hsplit⟩ := List.exists_cons_of_ne_nil hsome
    have hfirst := (hbetween first (by rw [hsplit]; exact List.mem_cons_self)).2
    rw [hsplit]
    simp [hfirst]
  rw [IsLine, String.append_assoc, Bytes.ofText_append, Bytes.ofText_append,
    Bytes.hasLineEnd_append hfeed, ha, hrest]
  rfl

/-- What stands first in a line is a line. -/
lemma IsLine.of_append (h : IsLine (a ++ b)) : IsLine a := by
  rw [IsLine, Bytes.ofText_append] at h
  exact Bytes.hasLineEnd_of_append h

lemma isLine_quote {before after : String} (h : IsLine a) (hbefore : IsPlain before)
    (hafter : IsPlain after) : IsLine (before ++ a ++ after) :=
  (h.after hbefore).before hafter

end Text

/-! ## Digits -/

lemma digitChar_plain (n : Nat) : 13 < n.digitChar.toNat ∧ n.digitChar.toNat < 128 := by
  have hdigits : ∀ d < 16, 13 < d.digitChar.toNat ∧ d.digitChar.toNat < 128 := by decide
  by_cases h : n < 16
  · exact hdigits n h
  · have hstar : n.digitChar = '*' := Nat.digitChar_eq_star.mpr (by omega)
    rw [hstar]
    decide

lemma mem_toDigitsCore {base fuel n : Nat} {cs : List Char} {c : Char}
    (h : c ∈ Nat.toDigitsCore base fuel n cs) : c ∈ cs ∨ ∃ d, c = Nat.digitChar d := by
  induction fuel generalizing n cs with
  | zero => exact .inl h
  | succ fuel ih =>
    rw [Nat.toDigitsCore] at h
    split at h
    · rcases List.mem_cons.mp h with rfl | hrest
      · exact .inr ⟨_, rfl⟩
      · exact .inl hrest
    · rcases ih h with hfound | hdigit
      · rcases List.mem_cons.mp hfound with rfl | hrest
        · exact .inr ⟨_, rfl⟩
        · exact .inl hrest
      · exact .inr hdigit

/-- The digits of a number are plain, in whatever base. -/
lemma plain_of_mem_toDigits {base n : Nat} :
    ∀ c ∈ Nat.toDigits base n, 13 < c.toNat ∧ c.toNat < 128 := by
  intro c hc
  rcases mem_toDigitsCore hc with hnone | ⟨d, rfl⟩
  · cases hnone
  · exact digitChar_plain d

namespace Decimal

lemma plain_ofNat (n : Nat) : Text.IsPlain (ofNat n) :=
  Bytes.plain_ofList plain_of_mem_toDigits

lemma plain_ofInt (i : Int) : Text.IsPlain (ofInt i) := by
  cases i with
  | ofNat n => exact plain_ofNat n
  | negSucc n =>
    have hminus : Text.IsPlain "-" := by decide
    exact hminus.append (plain_ofNat (n + 1))

end Decimal

lemma plain_hexWord (w : UInt32) : Text.IsPlain (hexWord w) := by
  have hmark : Text.IsPlain "0x" := by decide
  have hdigits : Text.IsPlain (hexDigits 8 w.toNat) := by
    refine Bytes.plain_ofList fun c hc => ?_
    rcases List.mem_append.mp hc with hzero | hdigit
    · rw [List.eq_of_mem_replicate hzero]
      exact digitChar_plain 0
    · exact plain_of_mem_toDigits c hdigit
  exact hmark.append hdigits

end ReplicatedStore
