import ReplicatedStore.Proofs.Text.Line
import ReplicatedStore.Proofs.Text.Split
import ReplicatedStore.Request.Encoding

/-!
# Requests that arrive bit by bit

A request is written as one line of words, and a payload with a line end after it.  Read off what
has arrived of it so far, it is nothing as long as the line is not whole or the payload breaks off,
and the request itself from then on (`decode_prefix`): the line end after the payload is not waited
for.  There is one exception.  When the line of a request with a payload has arrived and nothing
after it, the line is a whole request of its own, whose last argument is the length.
-/

namespace ReplicatedStore

namespace Request

/-- A command or an argument that can stand on a line: it has no blank and no line end in it. -/
structure IsWord (word : Bytes) : Prop where
  unbroken : 0x20 ∉ word
  line : Bytes.hasLineEnd word = false

lemma isWord_ofNat (n : Nat) : IsWord (Bytes.ofText (Decimal.ofNat n)) := by
  refine ⟨fun hblank => ?_, (Decimal.plain_ofNat n).isLine⟩
  have hdigit : ∀ c ∈ Nat.toDigits 10 n, 48 ≤ c.toNat ∧ c.toNat ≤ 57 := fun c hc =>
    Decimal.toNat_of_isDigit (Decimal.isDigit_toDigits n c hc)
  have hascii : ∀ c ∈ Nat.toDigits 10 n, c.toNat < 128 := fun c hc => by
    have := hdigit c hc
    omega
  obtain ⟨c, hc, hcode⟩ := Bytes.mem_ofText_ofList hascii hblank
  have hrange := hdigit c hc
  have hblankCode : (0x20 : UInt8).toNat = 32 := rfl
  omega

/-- Blanks between words make no line end. -/
lemma hasLineEnd_words {first : Bytes} {words : List Bytes}
    (hfirst : Bytes.hasLineEnd first = false)
    (hwords : ∀ word ∈ words, Bytes.hasLineEnd word = false) :
    Bytes.hasLineEnd (first ++ words.flatMap fun word => 0x20 :: word) = false := by
  induction words generalizing first with
  | nil => simpa using hfirst
  | cons word others ih =>
    have hrest := ih (hwords word List.mem_cons_self) fun other hmem =>
      hwords other (List.mem_cons_of_mem _ hmem)
    rw [List.flatMap_cons, List.cons_append, Bytes.hasLineEnd_append (by simp), hfirst,
      Bytes.hasLineEnd_cons, hrest]
    simp

/-! ## Lines -/

/-- The words on the line after the command: the arguments, and the length of the payload. -/
def lineWords (args : List Bytes) : Option Bytes → List Bytes
  | none => args
  | some data => args ++ [Bytes.ofText (Decimal.ofNat data.length)]

/-- The line of a request, without its end. -/
def commandLine (name : Bytes) (args : List Bytes) (payload : Option Bytes) : Bytes :=
  name ++ (lineWords args payload).flatMap fun word => 0x20 :: word

/-- What is written after the line. -/
def afterLine : Option Bytes → Bytes
  | none => []
  | some data => data ++ Bytes.lineEnd

lemma encode_eq (name : Bytes) (args : List Bytes) (payload : Option Bytes) :
    encode name args payload =
      commandLine name args payload ++ Bytes.lineEnd ++ afterLine payload := by
  cases payload with
  | none => simp [encode, commandLine, lineWords, afterLine]
  | some data => simp [encode, commandLine, lineWords, afterLine]

/-- The number of octets of the line with its end. -/
def lineLength (name : String) (args : List Bytes) (payload : Option Bytes) : Nat :=
  (commandLine (Bytes.ofText name) args payload).length + 2

/-- The number of octets of the line with its end and of the payload. -/
def wholeLength (name : String) (args : List Bytes) (payload : Option Bytes) : Nat :=
  lineLength name args payload + (payload.map List.length).getD 0

/-- What is written after the payload. -/
def trailer : Option Bytes → Bytes
  | none => []
  | some _ => Bytes.lineEnd

/-- Only the trailer is written after the line and the payload. -/
lemma encode_split (name : String) (args : List Bytes) (payload : Option Bytes) :
    ∃ whole, encode (Bytes.ofText name) args payload = whole ++ trailer payload ∧
      whole.length = wholeLength name args payload := by
  have hend : Bytes.lineEnd.length = 2 := rfl
  refine ⟨commandLine (Bytes.ofText name) args payload ++ Bytes.lineEnd ++ payload.getD [], ?_, ?_⟩
  · rw [encode_eq]
    cases payload <;> simp [afterLine, trailer]
  · rw [List.length_append, List.length_append, hend, wholeLength, lineLength]
    cases payload <;> simp

/-- A request that can be written as a line, and is not too long for a reader with the limit.  Its
first argument, be it the payload, is not empty, since the reader takes two blanks after the command
for one. -/
structure Writable (limit : Nat) (name : String) (args : List Bytes) (payload : Option Bytes) :
    Prop where
  command : IsWord (Bytes.ofText name)
  arguments : ∀ arg ∈ args, IsWord arg
  first : (args ++ payload.toList).head? ≠ some []
  fits : (encode (Bytes.ofText name) args payload).length ≤ limit
  machineWord : limit ≤ Decimal.unsigned64.above

namespace Writable

variable {limit : Nat} {name : String} {args : List Bytes} {payload : Option Bytes}

lemma words (h : Writable limit name args payload) :
    ∀ word ∈ lineWords args payload, IsWord word := by
  intro word hword
  cases payload with
  | none => exact h.arguments word hword
  | some data =>
    rcases List.mem_append.mp hword with harg | hlength
    · exact h.arguments word harg
    · rw [List.mem_singleton.mp hlength]
      exact isWord_ofNat data.length

lemma line (h : Writable limit name args payload) :
    Bytes.hasLineEnd (commandLine (Bytes.ofText name) args payload) = false :=
  hasLineEnd_words h.command.line fun word hword => (h.words word hword).line

lemma splitOn_line (h : Writable limit name args payload) :
    Text.splitOn 0x20 (commandLine (Bytes.ofText name) args payload) =
      Bytes.ofText name :: lineWords args payload :=
  Text.splitOn_join h.command.unbroken fun word hword => (h.words word hword).unbroken

lemma ofWords_line (h : Writable limit name args payload) :
    ofWords (Bytes.ofText name :: (args ++ payload.toList)) =
      Request.of name (args ++ payload.toList) := by
  have hfirst := h.first
  unfold ofWords
  cases hargs : args ++ payload.toList with
  | nil => simp [dropDoubledBlank]
  | cons arg others =>
    rw [hargs] at hfirst
    cases arg with
    | nil => simp at hfirst
    | cons x rest => simp [dropDoubledBlank]

/-- What has arrived of the request is not too long either. -/
lemma not_tooLarge (h : Writable limit name args payload) {arrived : Bytes}
    (harrived : arrived <+: encode (Bytes.ofText name) args payload) :
    ¬ limit < arrived.length := by
  have hle := harrived.length_le
  have hfits := h.fits
  omega

/-! ## What has arrived -/

lemma decode_short (h : Writable limit name args payload) {arrived : Bytes}
    (harrived : arrived <+: encode (Bytes.ofText name) args payload)
    (hshort : arrived.length < lineLength name args payload) :
    decode limit arrived = .incomplete := by
  have hline : arrived <+: commandLine (Bytes.ofText name) args payload ++ Bytes.lineEnd := by
    rw [encode_eq] at harrived
    refine List.prefix_of_prefix_length_le harrived (List.prefix_append _ _) ?_
    rw [List.length_append]
    exact Nat.le_of_lt hshort
  rw [decode, if_neg (h.not_tooLarge harrived), Bytes.splitLine?_of_cut h.line hline hshort]

/-- The line is all that a request without a payload is. -/
lemma decode_bare (h : Writable limit name args none) :
    decode limit (encode (Bytes.ofText name) args none) = .request (Request.of name args) := by
  have hwords := h.ofWords_line
  rw [Option.toList_none, List.append_nil] at hwords
  rw [decode, if_neg (h.not_tooLarge (List.prefix_refl _)), encode_eq,
    Bytes.splitLine?_append h.line]
  dsimp only
  rw [h.splitOn_line, lineWords, hwords]
  rfl

/-- The payload ends where its length says, whatever has arrived of the line end after it. -/
lemma decode_payload {data after : Bytes} (h : Writable limit name args (some data))
    (hafter : after <+: data ++ Bytes.lineEnd) (hsome : after ≠ []) :
    decode limit (commandLine (Bytes.ofText name) args (some data) ++ Bytes.lineEnd ++ after) =
      if after.length < data.length then .incomplete
      else .request (Request.of name (args ++ [data])) := by
  have hsize : data.length ≤ Decimal.unsigned64.above := by
    have hfits := h.fits
    have hword := h.machineWord
    rw [encode_eq] at hfits
    simp only [afterLine, List.length_append] at hfits
    omega
  have hread : Decimal.read? Decimal.unsigned64 (Bytes.ofText (Decimal.ofNat data.length)) =
      some (data.length : Int) := by
    rw [Decimal.read?, Decimal.read_ofNat hsize]
    rfl
  have harrived : commandLine (Bytes.ofText name) args (some data) ++ Bytes.lineEnd ++ after <+:
      encode (Bytes.ofText name) args (some data) := by
    rw [encode_eq]
    exact (List.prefix_append_right_inj _).mpr hafter
  have hmore : after.isEmpty = false := by simpa using hsome
  have hwords : Bytes.ofText name :: lineWords args (some data) =
      (Bytes.ofText name :: args) ++ [Bytes.ofText (Decimal.ofNat data.length)] := rfl
  rw [decode, if_neg (h.not_tooLarge harrived), Bytes.splitLine?_append h.line]
  dsimp only
  rw [h.splitOn_line, hmore, if_neg Bool.false_ne_true, hwords, List.getLastD_concat,
    List.dropLast_concat, hread]
  dsimp only
  rw [Int.toNat_natCast]
  by_cases hbreaks : after.length < data.length
  · rw [if_pos hbreaks, if_pos hbreaks]
  · have htake : after.take data.length = data := by
      have hdata : data <+: after :=
        List.prefix_of_prefix_length_le (List.prefix_append _ _) hafter (by omega)
      exact (List.prefix_iff_eq_take.mp hdata).symm
    have hrequest := h.ofWords_line
    rw [Option.toList_some] at hrequest
    rw [if_neg hbreaks, if_neg hbreaks, htake, List.cons_append, hrequest]

/-- **What has arrived of a request is nothing yet until the line and the payload are whole, and
then the request**, unless it is the line of a request with a payload and nothing after it. -/
theorem decode_prefix (h : Writable limit name args payload) {arrived : Bytes}
    (harrived : arrived <+: encode (Bytes.ofText name) args payload)
    (hline : payload.isSome → arrived.length ≠ lineLength name args payload) :
    decode limit arrived =
      if arrived.length < wholeLength name args payload then .incomplete
      else .request (Request.of name (args ++ payload.toList)) := by
  by_cases hshort : arrived.length < lineLength name args payload
  · have hwhole : arrived.length < wholeLength name args payload :=
      Nat.lt_of_lt_of_le hshort (Nat.le_add_right _ _)
    rw [if_pos hwhole, h.decode_short harrived hshort]
  have hlong : (commandLine (Bytes.ofText name) args payload ++ Bytes.lineEnd).length ≤
      arrived.length := by
    rw [List.length_append]
    exact Nat.le_of_not_lt hshort
  rw [encode_eq] at harrived
  obtain ⟨after, rfl⟩ := List.prefix_of_prefix_length_le (List.prefix_append _ _) harrived hlong
  have hafter := (List.prefix_append_right_inj _).mp harrived
  have hlength : (commandLine (Bytes.ofText name) args payload ++ Bytes.lineEnd ++ after).length =
      lineLength name args payload + after.length := by
    rw [List.length_append, List.length_append]
    rfl
  rw [hlength] at hline ⊢
  cases payload with
  | none =>
    obtain rfl : after = [] := List.prefix_nil.mp hafter
    have hbare := h.decode_bare
    rw [encode_eq] at hbare
    rw [if_neg (by simp [wholeLength]), Option.toList_none, List.append_nil args]
    exact hbare
  | some data =>
    have hsome : after ≠ [] := by
      rintro rfl
      exact hline rfl rfl
    rw [h.decode_payload hafter hsome]
    simp [wholeLength]

end Writable

end Request

end ReplicatedStore
