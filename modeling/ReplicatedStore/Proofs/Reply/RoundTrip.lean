import Mathlib.Algebra.Group.Nat.Defs
import ReplicatedStore.Proofs.Text.Line
import ReplicatedStore.Reply.Encoding

/-!
# Replies are read back

What `Reply.encode` writes, `Reply.parse` reads as the same reply, whatever follows, as long as no
text in it contains a line end, its integers have 64 bits, and its octets and lists are not longer
than memory can be (`parse_encode`).  Texts are the only part of a reply that is neither counted nor
escaped: a text with a line end in it is cut there, and the reader goes on in the middle of the
reply (`not_survives_error`).
-/

namespace ReplicatedStore.Reply

/-- The octets of a reply are read as that reply, and no further, whatever follows them. -/
def Survives (reply : Reply) : Prop :=
  ∀ rest, parse (reply.encode ++ rest) = .ok (reply, rest)

mutual

/-- No text in the reply contains a line end, and its integers have 64 bits. -/
def Sendable : Reply → Prop
  | .simple text => Text.IsLine text
  | .error message => Text.IsLine message
  | .integer value => Decimal.fitsSigned64 value
  | .bulk _ | .null => True
  | .array items => SendableAll items

/-- All of them are sendable. -/
def SendableAll : List Reply → Prop
  | [] => True
  | item :: rest => item.Sendable ∧ SendableAll rest

end

mutual

/-- Octets and lists in the reply have lengths that memory can have, so that a signed number of 64
bits tells them. -/
def Sized : Reply → Prop
  | .bulk data => data.length < 2 ^ 63
  | .array items => items.length < 2 ^ 63 ∧ SizedAll items
  | .simple _ | .error _ | .integer _ | .null => True

/-- All of them are sized. -/
def SizedAll : List Reply → Prop
  | [] => True
  | item :: rest => item.Sized ∧ SizedAll rest

end

lemma sendableAll_iff {items : List Reply} : SendableAll items ↔ ∀ item ∈ items, item.Sendable := by
  induction items with
  | nil => simp [SendableAll]
  | cons item rest ih => simp [SendableAll, ih]

/-! ## Lines -/

section Lines

variable {text : String}

/-- A line of a reply is found again. -/
lemma takeLine_text (h : Text.IsLine text) (rest : Bytes) :
    takeLine (Bytes.ofText text ++ Bytes.lineEnd ++ rest) = .ok (Bytes.ofText text, rest) := by
  rw [takeLine, Bytes.splitLine?_append h]

lemma lineText_ofText (text : String) : lineText (Bytes.ofText text) = .ok text := by
  rw [lineText, Bytes.text?_ofText]

lemma lineInteger_ofInt {value : Int} (h : Decimal.fitsSigned64 value) :
    lineInteger (Bytes.ofText (Decimal.ofInt value)) = .ok value := by
  have hread : Decimal.read Decimal.signed64 (Bytes.ofText (Decimal.ofInt value)) = .ok value := by
    have hfound := Decimal.read?_ofInt h
    unfold Decimal.read? at hfound
    cases hresult : Decimal.read Decimal.signed64 (Bytes.ofText (Decimal.ofInt value)) with
    | error fault =>
      rw [hresult] at hfound
      cases hfound
    | ok found =>
      rw [hresult] at hfound
      exact congrArg Except.ok (Option.some.inj hfound)
  unfold lineInteger
  rw [lineText_ofText]
  dsimp only [bind, Except.bind]
  rw [hread]

/-- A length, or a number of replies, that a word holds. -/
lemma lineInteger_ofNat {n : Nat} (h : n < 2 ^ 63) :
    lineInteger (Bytes.ofText (Decimal.ofNat n)) = .ok (n : Int) := by
  have hfits : Decimal.fitsSigned64 (n : Int) := by
    simp only [Decimal.fitsSigned64, Bool.and_eq_true, decide_eq_true_eq]
    omega
  exact lineInteger_ofInt hfits

lemma withoutMark_errorMark (message : String) : withoutMark (errorMark ++ message) = message := by
  unfold withoutMark
  have hmark : errorMark.toList.isPrefixOf (errorMark.toList ++ message.toList) = true := by
    rw [List.isPrefixOf_iff_prefix]
    exact List.prefix_append _ _
  have hdrop : (errorMark.toList ++ message.toList).drop errorMark.length = message.toList := rfl
  rw [String.toList_append, if_pos hmark, hdrop, String.ofList_toList]

lemma plain_errorMark : Text.IsPlain errorMark := by decide

lemma hasLineEnd_error (message : String) :
    Bytes.hasLineEnd (Bytes.ofText (errorMark ++ message)) =
      Bytes.hasLineEnd (Bytes.ofText message) := by
  rw [Bytes.ofText_append, Bytes.hasLineEnd_plain_append plain_errorMark]

end Lines

/-! ## Reading what was written -/

lemma length_pos_encode (reply : Reply) : 0 < reply.encode.length := by
  cases reply <;> simp [encode, line]

/-- Every reply takes at least one octet. -/
lemma length_le_encodeAll (items : List Reply) : items.length ≤ (encodeAll items).length := by
  induction items with
  | nil => exact Nat.le_refl 0
  | cons item rest ih =>
    have hfirst := item.length_pos_encode
    rw [encodeAll, List.length_append, List.length_cons]
    omega

section Parse

variable (depth : Nat) (rest : Bytes)

lemma parseWithin_simple {text : String} (h : Text.IsLine text) :
    parseWithin (depth + 1) (encode (.simple text) ++ rest) = .ok (.simple text, rest) := by
  have hline : encode (.simple text) ++ rest =
      0x2B :: (Bytes.ofText text ++ Bytes.lineEnd ++ rest) := rfl
  rw [hline, parseWithin, if_pos rfl, takeLine_text h]
  dsimp only [bind, Except.bind]
  rw [lineText_ofText]
  rfl

lemma parseWithin_error {message : String} (h : Text.IsLine message) :
    parseWithin (depth + 1) (encode (.error message) ++ rest) = .ok (.error message, rest) := by
  have hline : encode (.error message) ++ rest =
      0x2D :: (Bytes.ofText (errorMark ++ message) ++ Bytes.lineEnd ++ rest) := rfl
  rw [hline, parseWithin, if_neg (by decide), if_pos rfl,
    takeLine_text (h.after plain_errorMark)]
  dsimp only [bind, Except.bind]
  rw [lineText_ofText]
  dsimp only [pure, Except.pure]
  rw [withoutMark_errorMark]

lemma parseWithin_integer {value : Int} (h : Decimal.fitsSigned64 value) :
    parseWithin (depth + 1) (encode (.integer value) ++ rest) = .ok (.integer value, rest) := by
  have hline : encode (.integer value) ++ rest =
      0x3A :: (Bytes.ofText (Decimal.ofInt value) ++ Bytes.lineEnd ++ rest) := rfl
  rw [hline, parseWithin, if_neg (by decide), if_neg (by decide), if_pos rfl,
    takeLine_text (Decimal.plain_ofInt value).isLine]
  dsimp only [bind, Except.bind]
  rw [lineInteger_ofInt h]
  rfl

lemma parseWithin_null : parseWithin (depth + 1) (encode .null ++ rest) = .ok (.null, rest) := by
  have hline : encode .null ++ rest =
      0x24 :: (Bytes.ofText (Decimal.ofInt (-1)) ++ Bytes.lineEnd ++ rest) := rfl
  rw [hline, parseWithin, if_neg (by decide), if_neg (by decide), if_neg (by decide), if_pos rfl,
    takeLine_text (Decimal.plain_ofInt (-1)).isLine]
  dsimp only [bind, Except.bind]
  rw [lineInteger_ofInt (by decide)]
  rfl

lemma takeBulk_append (data : Bytes) :
    takeBulk data.length (data ++ Bytes.lineEnd ++ rest) = .ok (.bulk data, rest) := by
  have htake : (data ++ Bytes.lineEnd ++ rest).take data.length = data := by
    rw [List.append_assoc, List.take_left]
  have hdrop : (data ++ Bytes.lineEnd ++ rest).drop (data.length + 2) = rest :=
    List.drop_left' (by simp [Bytes.lineEnd])
  have hlong : ¬ (data ++ Bytes.lineEnd ++ rest).length < data.length + 2 := by
    simp [Bytes.lineEnd]
  unfold takeBulk
  rw [if_neg (by omega), if_neg (by omega), Int.toNat_natCast, if_neg hlong, htake, hdrop]

lemma parseWithin_bulk {data : Bytes} (h : data.length < 2 ^ 63) :
    parseWithin (depth + 1) (encode (.bulk data) ++ rest) = .ok (.bulk data, rest) := by
  have hline : encode (.bulk data) ++ rest =
      0x24 :: (Bytes.ofText (Decimal.ofNat data.length) ++ Bytes.lineEnd ++
        (data ++ Bytes.lineEnd ++ rest)) := by
    simp [encode, line]
  rw [hline, parseWithin, if_neg (by decide), if_neg (by decide), if_neg (by decide), if_pos rfl,
    takeLine_text (Decimal.plain_ofNat data.length).isLine]
  dsimp only [bind, Except.bind]
  rw [lineInteger_ofNat h]
  exact takeBulk_append rest data

/-- Several replies are read if each of them is. -/
lemma parseWithin_array {items : List Reply} (hcount : items.length < 2 ^ 63)
    (h : takeMany (parseWithin depth) items.length (encodeAll items ++ rest) = .ok (items, rest)) :
    parseWithin (depth + 1) (encode (.array items) ++ rest) = .ok (.array items, rest) := by
  have hline : encode (.array items) ++ rest =
      0x2A :: (Bytes.ofText (Decimal.ofNat items.length) ++ Bytes.lineEnd ++
        (encodeAll items ++ rest)) := by
    simp [encode, line]
  rw [hline, parseWithin, if_neg (by decide), if_neg (by decide), if_neg (by decide),
    if_neg (by decide), if_pos rfl, takeLine_text (Decimal.plain_ofNat items.length).isLine]
  dsimp only [bind, Except.bind]
  rw [lineInteger_ofNat hcount]
  dsimp only
  rw [if_neg (by omega), Int.toNat_natCast, h]
  rfl

end Parse

mutual

/-- A reply is read by whatever reads deep enough, which its length is. -/
theorem parseWithin_encode : ∀ (reply : Reply) (depth : Nat) (rest : Bytes), reply.Sendable →
    reply.Sized → reply.encode.length ≤ depth →
      parseWithin depth (reply.encode ++ rest) = .ok (reply, rest)
  | .simple text, depth + 1, rest, hsendable, _, _ => parseWithin_simple depth rest hsendable
  | .error message, depth + 1, rest, hsendable, _, _ => parseWithin_error depth rest hsendable
  | .integer value, depth + 1, rest, hsendable, _, _ => parseWithin_integer depth rest hsendable
  | .bulk data, depth + 1, rest, _, hsized, _ => parseWithin_bulk depth rest hsized
  | .null, depth + 1, rest, _, _, _ => parseWithin_null depth rest
  | .array items, depth + 1, rest, hsendable, hsized, hdepth => by
    have hsplit : (encode (.array items)).length =
        (line 0x2A (Decimal.ofNat items.length)).length + (encodeAll items).length := by
      simp [encode]
    have hline : 1 ≤ (line 0x2A (Decimal.ofNat items.length)).length := by simp [line]
    have hitems := takeMany_encodeAll items depth rest hsendable hsized.2 (by omega)
    exact parseWithin_array depth rest hsized.1 hitems
  | reply, 0, _, _, _, hdepth => absurd hdepth (Nat.not_le.mpr reply.length_pos_encode)

/-- Replies are read one after the other. -/
theorem takeMany_encodeAll : ∀ (items : List Reply) (depth : Nat) (rest : Bytes),
    SendableAll items → SizedAll items → (encodeAll items).length ≤ depth →
      takeMany (parseWithin depth) items.length (encodeAll items ++ rest) = .ok (items, rest)
  | [], _, _, _, _, _ => rfl
  | item :: others, depth, rest, hsendable, hsized, hdepth => by
    have hsplit : (encodeAll (item :: others)).length =
        item.encode.length + (encodeAll others).length := by
      simp [encodeAll]
    have hfirst := parseWithin_encode item depth (encodeAll others ++ rest) hsendable.1 hsized.1
      (by omega)
    have hothers := takeMany_encodeAll others depth rest hsendable.2 hsized.2 (by omega)
    have happend : encodeAll (item :: others) ++ rest =
        item.encode ++ (encodeAll others ++ rest) := by
      rw [encodeAll, List.append_assoc]
    rw [happend, List.length_cons, takeMany]
    dsimp only [bind, Except.bind]
    rw [hfirst]
    dsimp only
    rw [hothers]
    rfl

end

/-- **A sendable reply is read back, whatever follows it.** -/
theorem parse_encode {reply : Reply} (h : reply.Sendable) (hsized : reply.Sized) :
    reply.Survives := by
  intro rest
  refine parseWithin_encode reply _ rest h hsized ?_
  rw [List.length_append]
  omega

mutual

/-- No part of a reply is longer than its octets. -/
lemma sized_of_length : ∀ reply : Reply, reply.encode.length < 2 ^ 63 → reply.Sized
  | .bulk data, h => by
    have hle : data.length ≤ (encode (.bulk data)).length := by
      simp only [encode, List.length_append]
      omega
    exact Nat.lt_of_le_of_lt hle h
  | .array items, h => by
    have hle : (encodeAll items).length ≤ (encode (.array items)).length := by
      simp [encode]
    have hcount := length_le_encodeAll items
    exact ⟨by omega, sizedAll_of_length items (by omega)⟩
  | .simple _, _ | .error _, _ | .integer _, _ | .null, _ => trivial

lemma sizedAll_of_length : ∀ items : List Reply, (encodeAll items).length < 2 ^ 63 → SizedAll items
  | [], _ => trivial
  | item :: rest, h => by
    rw [encodeAll, List.length_append] at h
    exact ⟨sized_of_length item (by omega), sizedAll_of_length rest (by omega)⟩

end

/-- A sendable reply is read back if its octets can be in memory at all. -/
lemma survives_of_sendable {reply : Reply} (h : reply.Sendable)
    (hlength : reply.encode.length < 2 ^ 63) : reply.Survives :=
  parse_encode h (sized_of_length reply hlength)

/-- A message with a line end in it is cut there, and the rest of it is left behind as if it were
another reply. -/
theorem not_survives_error {message : String} (h : ¬ Text.IsLine message) :
    ¬ (error message).Survives := by
  intro hsurvives
  have hbroken : Bytes.hasLineEnd (Bytes.ofText (errorMark ++ message)) = true := by
    rw [hasLineEnd_error]
    exact eq_true_of_ne_false h
  obtain ⟨line, left, hsplit, hlength⟩ := Bytes.splitLine?_of_hasLineEnd hbroken []
  have hparse := hsurvives []
  have hline : encode (.error message) ++ [] =
      0x2D :: (Bytes.ofText (errorMark ++ message) ++ Bytes.lineEnd ++ []) := rfl
  rw [parse, hline, parseWithin, if_neg (by decide), if_pos rfl, takeLine, hsplit] at hparse
  dsimp only [bind, Except.bind] at hparse
  cases htext : lineText line with
  | error fault =>
    rw [htext] at hparse
    cases hparse
  | ok text =>
    rw [htext] at hparse
    have hrest : left = [] := congrArg Prod.snd (Except.ok.inj hparse)
    rw [hrest] at hlength
    exact absurd hlength (Nat.lt_irrefl _)

end ReplicatedStore.Reply
