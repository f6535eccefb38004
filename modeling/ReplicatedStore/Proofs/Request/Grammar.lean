import ReplicatedStore.Proofs.Request.Encoding

/-!
# The grammar of requests

What arrives is taken apart at the first line end and at every blank before it: a name, the words
after it, and the octets behind the line (`Parts`).  Without octets behind the line the words are
the arguments.  Otherwise the last word is a length, and as many of these octets take its place.  An
empty word directly after the name comes of a doubled blank and is no argument.  `Meant` says this
with the parts alone, and a request is read exactly where one is meant (`follows_grammar`).

There are two exceptions (`Misread`), since the reader puts the payload into the list of words
before it takes the list apart.  The payload of a line that is only a length is taken for the name;
and an empty payload directly after the name is taken for a doubled blank, and left out.
-/

namespace ReplicatedStore.Request

/-! ## Parts of what arrived -/

/-- The words of a line, the name first, with a blank between them. -/
def spaced (name : Bytes) (words : List Bytes) : Bytes :=
  name ++ words.flatMap fun word => 0x20 :: word

/-- Octets taken apart at the first line end, and at every blank before it. -/
structure Parts (arrived name : Bytes) (words : List Bytes) (after : Bytes) : Prop where
  whole : arrived = spaced name words ++ Bytes.lineEnd ++ after
  line : Bytes.hasLineEnd (spaced name words) = false
  unbroken : ∀ word ∈ name :: words, 0x20 ∉ word

/-- Every line can be taken apart at its blanks. -/
lemma exists_spaced (line : Bytes) :
    ∃ name words, line = spaced name words ∧ ∀ word ∈ name :: words, (0x20 : UInt8) ∉ word := by
  induction line with
  | nil => exact ⟨[], [], rfl, by simp⟩
  | cons octet rest ih =>
    obtain ⟨name, words, rfl, hunbroken⟩ := ih
    by_cases hblank : octet = 0x20
    · subst hblank
      refine ⟨[], name :: words, by simp [spaced], ?_⟩
      exact List.forall_mem_cons.mpr ⟨List.not_mem_nil, hunbroken⟩
    · obtain ⟨hname, hwords⟩ := List.forall_mem_cons.mp hunbroken
      refine ⟨octet :: name, words, rfl, List.forall_mem_cons.mpr ⟨fun hmem => ?_, hwords⟩⟩
      rcases List.mem_cons.mp hmem with heq | hmem
      · exact hblank heq.symm
      · exact hname hmem

lemma exists_parts {arrived : Bytes} (h : Bytes.hasLineEnd arrived = true) :
    ∃ name words after, Parts arrived name words after := by
  obtain ⟨place, hplace⟩ := Option.isSome_iff_exists.mp h
  have hsplit : arrived.splitLine? = some (arrived.take place, arrived.drop (place + 2)) := by
    rw [Bytes.splitLine?, hplace]
    rfl
  obtain ⟨hwhole, hline⟩ := Bytes.splitLine?_eq_some.mp hsplit
  obtain ⟨name, words, hspaced, hunbroken⟩ := exists_spaced (arrived.take place)
  rw [hspaced] at hwhole hline
  exact ⟨name, words, _, hwhole, hline, hunbroken⟩

/-! ## What is meant -/

/-- The arguments among the words after the name.  An empty first word comes of a doubled blank. -/
def argumentsOf : List Bytes → List Bytes
  | [] :: args => args
  | args => args

/-- The request that a name, the words after it and the octets behind the line are meant for. -/
inductive Meant (name : Bytes) : List Bytes → Bytes → Request → Prop where
  /-- Nothing follows the line: the words are the arguments. -/
  | line (words : List Bytes) :
      Meant name words [] (Request.of name.lossyText (argumentsOf words))
  /-- Octets follow the line: the last word says how many of them are the last argument. -/
  | payload (front : List Bytes) {word after : Bytes} {n : Nat}
      (hlength : Decimal.read? Decimal.unsigned64 word = some (n : Int))
      (hafter : after ≠ []) (henough : n ≤ after.length) :
      Meant name (front ++ [word]) after
        (Request.of name.lossyText (argumentsOf front ++ [after.take n]))

/-- Octets behind the line are meant for an argument. -/
lemma Meant.args_ne_nil {name after : Bytes} {words : List Bytes} {r : Request}
    (h : Meant name words after r) (hafter : after ≠ []) : r.args ≠ [] := by
  cases h with
  | line => exact absurd rfl hafter
  | payload => simp [Request.of]

/-- The lines that a payload is not put into as it is meant: those that are only a length, and those
where the length of nothing follows the name. -/
def Misread (words : List Bytes) (after : Bytes) : Prop :=
  after ≠ [] ∧
    (words = [] ∨ ∃ word, words = [word] ∧ Decimal.read? Decimal.unsigned64 word = some 0)

lemma ofWords_cons (name : Bytes) (words : List Bytes) :
    ofWords (name :: words) = Request.of name.lossyText (argumentsOf words) := by
  rcases words with _ | ⟨_ | ⟨octet, word⟩, args⟩ <;> rfl

/-- A payload is the last argument, unless it is the first one and empty. -/
lemma argumentsOf_append {front : List Bytes} {payload : Bytes} (h : front ≠ [] ∨ payload ≠ []) :
    argumentsOf (front ++ [payload]) = argumentsOf front ++ [payload] := by
  cases front with
  | nil =>
    cases payload with
    | nil => simp at h
    | cons octet rest => rfl
  | cons word others =>
    cases word with
    | nil => rfl
    | cons octet rest => rfl

/-! ## What is read -/

namespace Parts

variable {limit : Nat} {arrived name : Bytes} {words : List Bytes} {after : Bytes}

lemma splitOn_spaced (h : Parts arrived name words after) :
    Text.splitOn 0x20 (spaced name words) = name :: words :=
  Text.splitOn_join (h.unbroken name List.mem_cons_self) fun word hmem =>
    h.unbroken word (List.mem_cons_of_mem _ hmem)

lemma splitLine? (h : Parts arrived name words after) :
    arrived.splitLine? = some (spaced name words, after) :=
  Bytes.splitLine?_eq_some.mpr ⟨h.whole, h.line⟩

lemma decode_line (h : Parts arrived name words []) (hfits : arrived.length ≤ limit) :
    decode limit arrived = .request (Request.of name.lossyText (argumentsOf words)) := by
  rw [decode, if_neg (Nat.not_lt.mpr hfits), h.splitLine?]
  dsimp only
  rw [h.splitOn_spaced, ofWords_cons]
  rfl

/-- A request that is read has the payload that its last word gives the length of. -/
lemma decode_eq_request (h : Parts arrived name words after) (hfits : arrived.length ≤ limit)
    (hafter : after ≠ []) (front : List Bytes) {word : Bytes}
    (hwords : name :: words = front ++ [word]) {r : Request} :
    decode limit arrived = .request r ↔
      ∃ n : Nat, Decimal.read? Decimal.unsigned64 word = some (n : Int) ∧ n ≤ after.length ∧
        r = ofWords (front ++ [after.take n]) := by
  have hmore : after.isEmpty = false := by simpa using hafter
  rw [decode, if_neg (Nat.not_lt.mpr hfits), h.splitLine?]
  dsimp only
  rw [h.splitOn_spaced, hmore, if_neg Bool.false_ne_true, hwords, List.getLastD_concat,
    List.dropLast_concat]
  cases hread : Decimal.read? Decimal.unsigned64 word with
  | none => simp
  | some length =>
    obtain ⟨n, -, rfl⟩ := Decimal.natural_of_read? rfl hread
    dsimp only
    rw [Int.toNat_natCast]
    split
    · rename_i hbreaks
      simp only [reduceCtorEq, Option.some.injEq, Int.natCast_inj, false_iff]
      rintro ⟨m, rfl, henough, -⟩
      omega
    · rename_i henough
      simp only [Arrival.request.injEq, Option.some.injEq, Int.natCast_inj]
      constructor
      · rintro rfl
        exact ⟨n, rfl, by omega, rfl⟩
      · rintro ⟨m, rfl, -, rfl⟩
        rfl

/-- Outside the exceptions a request is read exactly where it is meant. -/
lemma decode_iff_meant (h : Parts arrived name words after) (hfits : arrived.length ≤ limit)
    (hread : ¬ Misread words after) (r : Request) :
    decode limit arrived = .request r ↔ Meant name words after r := by
  by_cases hafter : after = []
  · subst hafter
    rw [h.decode_line hfits, Arrival.request.injEq]
    constructor
    · rintro rfl
      exact .line words
    · intro hmeant
      cases hmeant with
      | line => rfl
      | payload _ _ hsome _ => exact absurd rfl hsome
  -- Octets follow the line, so there is a last word.
  rcases List.eq_nil_or_concat words with hnone | ⟨front, word, rfl⟩
  · exact absurd ⟨hafter, .inl hnone⟩ hread
  rw [List.concat_eq_append] at h hread ⊢
  have hmeant : ∀ n : Nat, Decimal.read? Decimal.unsigned64 word = some (n : Int) →
      ofWords (name :: front ++ [after.take n]) =
        Request.of name.lossyText (argumentsOf front ++ [after.take n]) := by
    intro n hn
    rw [List.cons_append, ofWords_cons, argumentsOf_append]
    by_contra hdropped
    obtain ⟨hfront, hempty⟩ := not_or.mp hdropped
    obtain rfl := not_not.mp hfront
    obtain rfl : n = 0 := by
      rcases List.take_eq_nil_iff.mp (not_not.mp hempty) with hzero | hnil
      · exact hzero
      · exact absurd hnil hafter
    exact hread ⟨hafter, .inr ⟨word, rfl, hn⟩⟩
  rw [h.decode_eq_request hfits hafter (name :: front) rfl]
  constructor
  · rintro ⟨n, hn, henough, rfl⟩
    rw [hmeant n hn]
    exact .payload front hn hafter henough
  · intro hr
    generalize hwords : front ++ [word] = words at hr
    cases hr with
    | line => exact absurd rfl hafter
    | @payload _ _ _ n hn _ henough =>
      obtain ⟨rfl, hword⟩ := List.append_inj' hwords rfl
      obtain rfl := List.singleton_inj.mp hword
      exact ⟨n, hn, henough, (hmeant n hn).symm⟩

/-- The payload of a line that is only a length is the name of the request. -/
lemma decode_lone_length (h : Parts arrived name [] after) (hfits : arrived.length ≤ limit)
    (hafter : after ≠ []) (r : Request) :
    decode limit arrived = .request r ↔
      ∃ n : Nat, Decimal.read? Decimal.unsigned64 name = some (n : Int) ∧ n ≤ after.length ∧
        r = Request.of (Bytes.lossyText (after.take n)) [] :=
  h.decode_eq_request hfits hafter [] rfl

/-- An empty payload directly after the name is left out. -/
lemma decode_no_payload {word : Bytes} (h : Parts arrived name [word] after)
    (hfits : arrived.length ≤ limit) (hafter : after ≠ [])
    (hzero : Decimal.read? Decimal.unsigned64 word = some 0) :
    decode limit arrived = .request (Request.of name.lossyText []) :=
  (h.decode_eq_request hfits hafter [name] rfl).mpr
    ⟨0, hzero, Nat.zero_le _, rfl⟩

end Parts

/-! ## What stays for the next request -/

section Left

variable {limit : Nat} {arrived : Bytes}

lemma decode_ne_tooLarge (hfits : arrived.length ≤ limit) (size bound : Nat) :
    decode limit arrived ≠ .tooLarge size bound := by
  rw [decode, if_neg (Nat.not_lt.mpr hfits)]
  split
  · simp
  · dsimp only
    split
    · simp
    · split
      · simp
      · split <;> simp

/-- Once anything is read, nothing stays. -/
lemma decodeAll_of_fits (hfits : arrived.length ≤ limit) :
    decodeAll limit arrived =
      if decode limit arrived = .incomplete then ([], arrived)
      else ([decode limit arrived], []) := by
  have hsmall := decode_ne_tooLarge hfits
  unfold decodeAll
  cases hread : decode limit arrived with
  | incomplete => rfl
  | request r => rfl
  | refused fault => rfl
  | tooLarge size bound => exact absurd hread (hsmall size bound)

/-- **Requests are read as the grammar says.**  Whatever has arrived with a line end in it, it can
be taken apart, and a request is read exactly where one is meant, with the two exceptions: the
payload of a line that is only a length is the name, and an empty payload directly after the name is
left out.  Once anything is read nothing of what arrived stays, and all of it until then. -/
theorem follows_grammar (hfits : arrived.length ≤ limit)
    (hend : Bytes.hasLineEnd arrived = true) :
    (∃ name words after, Parts arrived name words after) ∧
    (∀ name words after, Parts arrived name words after →
      (¬ Misread words after →
        ∀ r, decode limit arrived = .request r ↔ Meant name words after r) ∧
      (words = [] → after ≠ [] → ∀ r, decode limit arrived = .request r ↔
        ∃ n : Nat, Decimal.read? Decimal.unsigned64 name = some (n : Int) ∧ n ≤ after.length ∧
          r = Request.of (Bytes.lossyText (after.take n)) []) ∧
      (∀ word, words = [word] → after ≠ [] → Decimal.read? Decimal.unsigned64 word = some 0 →
        decode limit arrived = .request (Request.of name.lossyText []))) ∧
    decodeAll limit arrived =
      if decode limit arrived = .incomplete then ([], arrived)
      else ([decode limit arrived], []) := by
  refine ⟨exists_parts hend, fun name words after h => ⟨?_, ?_, ?_⟩, decodeAll_of_fits hfits⟩
  · exact h.decode_iff_meant hfits
  · rintro rfl
    exact h.decode_lone_length hfits
  · rintro word rfl
    exact h.decode_no_payload hfits

end Left

/-- A doubled blank, and an empty payload that is not the first argument. -/
theorem follows_grammar_doubled :
    let arrived := Bytes.ofText "Set  k 0\r\n\r\n"
    let words := [[], Bytes.ofText "k", Bytes.ofText "0"]
    arrived.length ≤ 12 ∧ Bytes.hasLineEnd arrived = true ∧
      Parts arrived (Bytes.ofText "Set") words Bytes.lineEnd ∧ ¬ Misread words Bytes.lineEnd ∧
      decode 12 arrived = .request ⟨"set", [Bytes.ofText "k", []]⟩ ∧
      decodeAll 12 arrived = ([.request ⟨"set", [Bytes.ofText "k", []]⟩], []) := by
  intro arrived words
  have hfits : arrived.length ≤ 12 := by decide
  have hend : Bytes.hasLineEnd arrived = true := by decide
  have hparts : Parts arrived (Bytes.ofText "Set") words Bytes.lineEnd :=
    ⟨by decide, by decide, by decide⟩
  have hread : ¬ Misread words Bytes.lineEnd := by
    rintro ⟨-, hnone | ⟨word, hword, -⟩⟩
    · exact List.cons_ne_nil _ _ hnone
    · simp [words] at hword
  have hmeant : Meant (Bytes.ofText "Set") words Bytes.lineEnd
      ⟨"set", [Bytes.ofText "k", []]⟩ :=
    Meant.payload [[], Bytes.ofText "k"] (n := 0) (by decide) (by decide) (by decide)
  obtain ⟨-, hgrammar, hleft⟩ := follows_grammar hfits hend
  have hrequest := ((hgrammar _ _ _ hparts).1 hread _).mpr hmeant
  rw [hrequest, if_neg (by simp)] at hleft
  exact ⟨hfits, hend, hparts, hread, hrequest, hleft⟩

/-- An empty payload directly after the name is meant for an argument, and is not read as one. -/
theorem not_follows_grammar :
    ¬ ∀ (limit : Nat) (arrived name : Bytes) (words : List Bytes) (after : Bytes),
      arrived.length ≤ limit → Parts arrived name words after →
      ∀ r, decode limit arrived = .request r → Meant name words after r := by
  intro h
  have hread : decode 9 (Bytes.ofText "SET 0\r\n\r\n") = .request ⟨"set", []⟩ := by decide
  have hparts : Parts (Bytes.ofText "SET 0\r\n\r\n") (Bytes.ofText "SET") [Bytes.ofText "0"]
      Bytes.lineEnd := ⟨by decide, by decide, by decide⟩
  exact (h 9 _ _ _ _ (by decide) hparts _ hread).args_ne_nil (by decide) rfl

end ReplicatedStore.Request
