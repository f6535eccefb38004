import Mathlib.Data.List.Infix
import ReplicatedStore.Proofs.Request.Encoding

/-!
# Requests off a stream

The octets of a request arrive in pieces, and a request is looked for with every piece.  As long as
no piece ends with the line of a request that has a payload, the first request that is found is the
one that was written, found with the piece that completes its payload and not before
(`decodeChunks_encode`, `arrives_whole`).  What arrives after that piece is read as another request.
-/

namespace ReplicatedStore.Request

/-! ## Pieces -/

/-- A piece of the stream ends after so many octets. -/
def CutAt (chunks : List Bytes) (n : Nat) : Prop :=
  ∃ before, before <+: chunks ∧ before.flatten.length = n

lemma cutAt_iff {chunks : List Bytes} {n : Nat} :
    CutAt chunks n ↔ ∃ before ∈ chunks.inits, before.flatten.length = n := by
  simp [CutAt]

instance (chunks : List Bytes) (n : Nat) : Decidable (CutAt chunks n) :=
  decidable_of_iff' _ cutAt_iff

/-- The piece with which so many octets have arrived. -/
lemma exists_completing {chunks : List Bytes} {n : Nat} (hn : 0 < n)
    (h : n ≤ chunks.flatten.length) :
    ∃ before last after, chunks = before ++ last :: after ∧ before.flatten.length < n ∧
      n ≤ (before ++ [last]).flatten.length := by
  induction chunks generalizing n with
  | nil =>
    simp only [List.flatten_nil, List.length_nil] at h
    omega
  | cons chunk chunks ih =>
    by_cases hfirst : n ≤ chunk.length
    · exact ⟨[], chunk, chunks, rfl, by simpa using hn, by simpa using hfirst⟩
    · rw [List.flatten_cons, List.length_append] at h
      obtain ⟨before, last, after, rfl, hless, hle⟩ :=
        ih (n := n - chunk.length) (by omega) (by omega)
      refine ⟨chunk :: before, last, after, rfl, ?_, ?_⟩
      · rw [List.flatten_cons, List.length_append]
        omega
      · rw [List.cons_append, List.flatten_cons, List.length_append]
        omega

/-- The piece with which so many octets have arrived ends after exactly as many, if any piece does.
-/
lemma cutAt_iff_completing {before after : List Bytes} {last : Bytes} {n : Nat}
    (hless : before.flatten.length < n) (hle : n ≤ (before ++ [last]).flatten.length) :
    CutAt (before ++ last :: after) n ↔ (before ++ [last]).flatten.length = n := by
  have hlast : before ++ [last] <+: before ++ last :: after := ⟨after, by simp⟩
  constructor
  · rintro ⟨other, hother, rfl⟩
    refine Nat.le_antisymm ?_ hle
    rcases List.prefix_or_prefix_of_prefix hlast hother with hlater | hearlier
    · exact hlater.flatten.length_le
    · rcases List.prefix_concat_iff.mp hearlier with rfl | hbefore
      · exact Nat.le_refl _
      · have hlength := hbefore.flatten.length_le
        omega
  · intro hends
    exact ⟨before ++ [last], hlast, hends⟩

/-! ## Reading with every piece -/

/-- More octets than a request may have end the stream. -/
def Arrival.isFatal : Arrival → Bool
  | .tooLarge _ _ => true
  | _ => false

/-- Reads requests off a stream that arrives in pieces, where `left` waits for more: what comes out,
and what waits in the end. -/
def decodeChunks (limit : Nat) (left : Bytes) : List Bytes → List Arrival × Bytes
  | [] => ([], left)
  | chunk :: chunks =>
    let (arrivals, left) := decodeAll limit (left ++ chunk)
    if arrivals.any Arrival.isFatal then (arrivals, left)
    else
      let (later, last) := decodeChunks limit left chunks
      (arrivals ++ later, last)

section Chunks

variable {limit : Nat} {left chunk : Bytes}

lemma decodeChunks_of_incomplete (h : decode limit (left ++ chunk) = .incomplete)
    (chunks : List Bytes) :
    decodeChunks limit left (chunk :: chunks) = decodeChunks limit (left ++ chunk) chunks := by
  simp [decodeChunks, decodeAll, h, Request.left]

lemma decodeChunks_of_request {r : Request} (h : decode limit (left ++ chunk) = .request r)
    (chunks : List Bytes) :
    decodeChunks limit left (chunk :: chunks) =
      (.request r :: (decodeChunks limit [] chunks).1, (decodeChunks limit [] chunks).2) := by
  simp [decodeChunks, decodeAll, h, Request.left, Arrival.isFatal]

/-- While nothing can be read, what arrives is kept. -/
lemma decodeChunks_append {first : List Bytes}
    (h : ∀ before, before <+: first → decode limit (left ++ before.flatten) = .incomplete)
    (chunks : List Bytes) :
    decodeChunks limit left (first ++ chunks) =
      decodeChunks limit (left ++ first.flatten) chunks := by
  induction first generalizing left with
  | nil => simp
  | cons chunk others ih =>
    have hchunk := h [chunk] (by simp)
    rw [List.flatten_singleton] at hchunk
    have hothers : ∀ before, before <+: others →
        decode limit (left ++ chunk ++ before.flatten) = .incomplete := by
      intro before hbefore
      have hlonger := h (chunk :: before) (by simpa using hbefore)
      rwa [List.flatten_cons, ← List.append_assoc] at hlonger
    rw [List.cons_append, decodeChunks_of_incomplete hchunk, ih hothers, List.flatten_cons,
      List.append_assoc]

lemma decodeChunks_waits {chunks : List Bytes}
    (h : ∀ before, before <+: chunks → decode limit (left ++ before.flatten) = .incomplete) :
    decodeChunks limit left chunks = ([], left ++ chunks.flatten) := by
  have happend := decodeChunks_append h []
  rw [List.append_nil] at happend
  exact happend

/-- Octets without a line end wait, however they are cut. -/
lemma decodeChunks_broken {chunks : List Bytes} {b : Bytes} (hchunks : chunks.flatten = b)
    (hsize : b.length ≤ limit) (h : Bytes.hasLineEnd b = false) :
    decodeChunks limit [] chunks = ([], b) := by
  subst hchunks
  refine decodeChunks_waits fun before hbefore => ?_
  obtain ⟨after, rfl⟩ := hbefore
  rw [List.flatten_append] at h hsize
  rw [List.length_append] at hsize
  have hnone : Bytes.splitLine? before.flatten = none := by
    have hbroken := Bytes.hasLineEnd_of_append h
    rw [Bytes.hasLineEnd] at hbroken
    rw [Bytes.splitLine?, Option.map_eq_none_iff]
    simpa using hbroken
  rw [List.nil_append, decode, if_neg (by omega), hnone]

end Chunks

/-! ## A request in pieces -/

section Written

variable {limit : Nat} {name : String} {args : List Bytes} {payload : Option Bytes}
  {chunks : List Bytes}

/-- What has arrived with some of the pieces. -/
lemma decode_before (h : Writable limit name args payload)
    (hchunks : chunks.flatten = encode (Bytes.ofText name) args payload)
    (hcut : payload.isSome → ¬ CutAt chunks (lineLength name args payload))
    {before : List Bytes} (hbefore : before <+: chunks) :
    decode limit before.flatten =
      if before.flatten.length < wholeLength name args payload then .incomplete
      else .request (Request.of name (args ++ payload.toList)) := by
  refine h.decode_prefix ?_ fun hpayload hlength => hcut hpayload ⟨before, hbefore, hlength⟩
  rw [← hchunks]
  exact hbefore.flatten

/-- Nothing comes out before the payload is complete. -/
lemma decodeChunks_before (h : Writable limit name args payload)
    (hchunks : chunks.flatten = encode (Bytes.ofText name) args payload)
    (hcut : payload.isSome → ¬ CutAt chunks (lineLength name args payload))
    {before : List Bytes} (hbefore : before <+: chunks)
    (hshort : before.flatten.length < wholeLength name args payload) (later : List Bytes) :
    decodeChunks limit [] (before ++ later) = decodeChunks limit before.flatten later := by
  have hwaits : ∀ first, first <+: before → decode limit ([] ++ first.flatten) = .incomplete := by
    intro first hfirst
    have hless : first.flatten.length < wholeLength name args payload :=
      Nat.lt_of_le_of_lt hfirst.flatten.length_le hshort
    rw [List.nil_append, decode_before h hchunks hcut (hfirst.trans hbefore), if_pos hless]
  exact decodeChunks_append hwaits later

/-- **The request comes out with the piece that completes its payload.**  What arrives later is read
on its own. -/
theorem decodeChunks_encode (h : Writable limit name args payload)
    (hchunks : chunks.flatten = encode (Bytes.ofText name) args payload)
    (hcut : payload.isSome → ¬ CutAt chunks (lineLength name args payload)) :
    ∃ before last after, chunks = before ++ last :: after ∧
      before.flatten.length < wholeLength name args payload ∧
      wholeLength name args payload ≤ (before ++ [last]).flatten.length ∧
      decode limit (before ++ [last]).flatten =
        .request (Request.of name (args ++ payload.toList)) ∧
      decodeChunks limit [] chunks =
        (.request (Request.of name (args ++ payload.toList)) :: (decodeChunks limit [] after).1,
          (decodeChunks limit [] after).2) := by
  have hpos : 0 < wholeLength name args payload := by
    rw [wholeLength, lineLength]
    omega
  have henough : wholeLength name args payload ≤ chunks.flatten.length := by
    obtain ⟨whole, hsplit, hlength⟩ := encode_split name args payload
    rw [hchunks, hsplit, List.length_append, hlength]
    exact Nat.le_add_right _ _
  obtain ⟨before, last, after, rfl, hless, hle⟩ := exists_completing hpos henough
  have hbefore : before <+: before ++ last :: after := List.prefix_append _ _
  have hlast : before ++ [last] <+: before ++ last :: after := ⟨after, by simp⟩
  have hrequest := decode_before h hchunks hcut hlast
  rw [if_neg (Nat.not_lt.mpr hle)] at hrequest
  refine ⟨before, last, after, rfl, hless, hle, hrequest, ?_⟩
  rw [List.flatten_append, List.flatten_singleton] at hrequest
  rw [decodeChunks_before h hchunks hcut hbefore hless, decodeChunks_of_request hrequest]

/-- **A request survives its way, however it is cut into pieces**, if no piece ends with its line
while a payload follows.  What comes out first is the request, and nothing comes out and everything
is kept until its line and its payload are there. -/
theorem arrives_whole (h : Writable limit name args payload)
    (hchunks : chunks.flatten = encode (Bytes.ofText name) args payload)
    (hcut : payload.isSome → ¬ CutAt chunks (lineLength name args payload)) :
    (decodeChunks limit [] chunks).1.head? =
      some (.request (Request.of name (args ++ payload.toList))) ∧
    ∀ before, before <+: chunks → before.flatten.length < wholeLength name args payload →
      decodeChunks limit [] before = ([], before.flatten) := by
  constructor
  · obtain ⟨before, last, after, -, -, -, -, hread⟩ := decodeChunks_encode h hchunks hcut
    rw [hread, List.head?_cons]
  · intro before hbefore hshort
    have hnone := decodeChunks_before h hchunks hcut hbefore hshort []
    rw [List.append_nil] at hnone
    exact hnone

/-! ### What arrives after the request -/

/-- Behind the piece that completes the payload comes what is left of the trailer. -/
lemma flatten_after {before after : List Bytes} {last : Bytes}
    (hchunks : (before ++ last :: after).flatten = encode (Bytes.ofText name) args payload)
    (hle : wholeLength name args payload ≤ (before ++ [last]).flatten.length) :
    after.flatten = (trailer payload).drop
      ((before ++ [last]).flatten.length - wholeLength name args payload) := by
  obtain ⟨whole, hsplit, hlength⟩ := encode_split name args payload
  have hparts : (before ++ [last]).flatten ++ after.flatten = whole ++ trailer payload := by
    rw [← hsplit, ← hchunks, ← List.flatten_append]
    simp
  have hdrop := congrArg (List.drop (before ++ [last]).flatten.length) hparts
  rw [List.drop_left, List.drop_append, List.drop_of_length_le (hlength ▸ hle), List.nil_append,
    hlength] at hdrop
  exact hdrop

/-- A request without a payload leaves nothing behind. -/
lemma decodeChunks_bare (h : Writable limit name args none)
    (hchunks : chunks.flatten = encode (Bytes.ofText name) args none) :
    decodeChunks limit [] chunks = ([.request (Request.of name args)], []) := by
  obtain ⟨before, last, after, rfl, -, hle, -, hread⟩ := decodeChunks_encode h hchunks (by simp)
  have hnothing : after.flatten = [] := by
    rw [flatten_after hchunks hle, trailer, List.drop_nil]
  rw [hread, decodeChunks_broken hnothing (Nat.zero_le _) rfl, Option.toList_none, List.append_nil]

/-- A line end alone is the request that names no command. -/
lemma decodeChunks_lineEnd (hlimit : 2 ≤ limit) (hword : limit ≤ Decimal.unsigned64.above)
    (hchunks : chunks.flatten = Bytes.lineEnd) :
    decodeChunks limit [] chunks = ([.request (Request.of "" [])], []) := by
  have hwritable : Writable limit "" [] none :=
    ⟨⟨by decide, by decide⟩, by simp, by simp, hlimit, hword⟩
  exact decodeChunks_bare hwritable hchunks

/-- What is read of a line end, or of what is left of it, that comes on its own. -/
lemma decodeChunks_trailer (hlimit : 2 ≤ limit) (hword : limit ≤ Decimal.unsigned64.above) {k : Nat}
    (hchunks : chunks.flatten = Bytes.lineEnd.drop k) :
    decodeChunks limit [] chunks =
      if k = 0 then ([.request (Request.of "" [])], []) else ([], Bytes.lineEnd.drop k) := by
  cases k with
  | zero => exact decodeChunks_lineEnd hlimit hword hchunks
  | succ k =>
    have hbroken : Bytes.hasLineEnd (Bytes.lineEnd.drop (k + 1)) = false := by
      cases k with
      | zero => rfl
      | succ k =>
        rw [List.drop_of_length_le (Nat.le_add_left 2 k)]
        rfl
    have hlength : (Bytes.lineEnd.drop (k + 1)).length ≤ limit := by
      have hend : Bytes.lineEnd.length = 2 := rfl
      rw [List.length_drop]
      omega
    exact decodeChunks_broken hchunks hlength hbroken

/-- **What comes out of a request with a payload depends on where its trailer is cut.**  A trailer
that comes late is read as another request, and the second half of it, when it comes late alone,
waits for the next request. -/
theorem decodeChunks_payload {data : Bytes} (h : Writable limit name args (some data))
    (hchunks : chunks.flatten = encode (Bytes.ofText name) args (some data))
    (hcut : ¬ CutAt chunks (lineLength name args (some data))) :
    decodeChunks limit [] chunks =
      if CutAt chunks (wholeLength name args (some data)) then
        ([.request (Request.of name (args ++ [data])), .request (Request.of "" [])], [])
      else if CutAt chunks (wholeLength name args (some data) + 1) then
        ([.request (Request.of name (args ++ [data]))], [10])
      else ([.request (Request.of name (args ++ [data]))], []) := by
  obtain ⟨before, last, after, rfl, hless, hle, -, hread⟩ :=
    decodeChunks_encode h hchunks fun _ => hcut
  have hlimit : 2 ≤ limit := by
    obtain ⟨whole, hsplit, -⟩ := encode_split name args (some data)
    have hfits := h.fits
    rw [hsplit, List.length_append] at hfits
    exact Nat.le_trans (Nat.le_add_left _ _) hfits
  have hafter := decodeChunks_trailer hlimit h.machineWord (flatten_after hchunks hle)
  have hends : ∀ n, before.flatten.length < n → n ≤ (before ++ [last]).flatten.length →
      (CutAt (before ++ last :: after) n ↔ (before ++ [last]).flatten.length = n) :=
    fun _ => cutAt_iff_completing
  rw [hread, Option.toList_some, hafter]
  generalize (before ++ [last]).flatten.length = ends at hle hends
  by_cases hpayload : ends = wholeLength name args (some data)
  · rw [if_pos ((hends _ hless hle).mpr hpayload), hpayload, Nat.sub_self, if_pos rfl]
  have hbehind : wholeLength name args (some data) + 1 ≤ ends := by omega
  have hreturns := hends _ (Nat.lt_succ_of_lt hless) hbehind
  rw [if_neg (mt (hends _ hless hle).mp hpayload), if_neg (by omega)]
  by_cases hreturn : ends = wholeLength name args (some data) + 1
  · rw [if_pos (hreturns.mpr hreturn), hreturn, Nat.add_sub_cancel_left]
    rfl
  · have hwhole : Bytes.lineEnd.length ≤ ends - wholeLength name args (some data) := by
      have hend : Bytes.lineEnd.length = 2 := rfl
      omega
    rw [if_neg (mt hreturns.mp hreturn), List.drop_of_length_le hwhole]

/-- A name in any letters, a payload with line ends in it, and pieces that end inside line ends. -/
theorem arrives_whole_cut :
    let payload := Bytes.ofText "a\r\nb\r\n"
    let chunks := ["Se", "T k 6\r", "\na\r", "", "\nb\r\n", "\r\n"].map Bytes.ofText
    Writable 17 "SeT" [Bytes.ofText "k"] (some payload) ∧
    chunks.flatten = encode (Bytes.ofText "SeT") [Bytes.ofText "k"] (some payload) ∧
    ¬ CutAt chunks (lineLength "SeT" [Bytes.ofText "k"] (some payload)) ∧
    (decodeChunks 17 [] chunks).1.head? =
      some (.request (Request.of "SeT" [Bytes.ofText "k", payload])) ∧
    ∀ before, before <+: chunks →
      before.flatten.length < wholeLength "SeT" [Bytes.ofText "k"] (some payload) →
      decodeChunks 17 [] before = ([], before.flatten) := by
  intro payload chunks
  have hwritable : Writable 17 "SeT" [Bytes.ofText "k"] (some payload) := by
    refine ⟨⟨by decide, by decide⟩, fun arg harg => ?_, by decide, by decide, by decide⟩
    rw [List.mem_singleton.mp harg]
    exact ⟨by decide, by decide⟩
  have hchunks : chunks.flatten =
      encode (Bytes.ofText "SeT") [Bytes.ofText "k"] (some payload) := by decide
  have hcut : ¬ CutAt chunks (lineLength "SeT" [Bytes.ofText "k"] (some payload)) := by decide
  obtain ⟨hfirst, hbefore⟩ := arrives_whole hwritable hchunks fun _ => hcut
  exact ⟨hwritable, hchunks, hcut, hfirst, hbefore⟩

end Written

end ReplicatedStore.Request
