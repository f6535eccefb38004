import ReplicatedStore.Proofs.Reply.RoundTrip

/-!
# Replies off a stream

Octets arrive in pieces, and a reply is looked for again with every piece.  What was once made of
the octets stays when more of them follow: a whole reply is the same reply, a fault is the same
fault, and only of octets that break off nothing was said yet (`later_parse`).  Two things follow.

* A reply that was written is read when all of its octets are there, whatever follows them, and
  never before: any fewer octets of it break off, and are neither a reply nor a fault
  (`parse_exactly`).
* The replies that come out of a stream, the fault that ends it and the octets that wait for more
  are the same however the stream is cut into pieces (`parseChunks_flatten`).
-/

namespace ReplicatedStore.Reply

/-! ## When more octets follow -/

section Later

variable {α β γ : Type} {more : Bytes}

/-- What was read, and what is read when `more` follows the octets.  A whole thing stays what it is,
with `more` behind what was left, and a fault stays the fault that it is. -/
inductive Later (more : Bytes) : Except Fault (α × Bytes) → Except Fault (α × Bytes) → Prop where
  /-- The octets broke off, so anything may come of them. -/
  | brokenOff (y : Except Fault (α × Bytes)) : Later more (.error .incomplete) y
  /-- They could not be read. -/
  | refused (fault : Fault) : Later more (.error fault) (.error fault)
  /-- Something was read. -/
  | taken (a : α) (rest : Bytes) : Later more (.ok (a, rest)) (.ok (a, rest ++ more))

namespace Later

variable {x y : Except Fault (α × Bytes)}

lemma of_ok {a : α} {rest : Bytes} (h : Later more x y) (hx : x = .ok (a, rest)) :
    y = .ok (a, rest ++ more) := by
  cases h with
  | taken found left =>
    obtain ⟨rfl, rfl⟩ := Prod.mk.inj (Except.ok.inj hx)
    rfl
  | _ => cases hx

lemma of_error {fault : Fault} (h : Later more x y) (hx : x = .error fault)
    (hfault : fault ≠ .incomplete) : y = .error fault := by
  cases h with
  | brokenOff => exact absurd (Except.error.inj hx).symm hfault
  | refused found => exact hx
  | taken => cases hx

lemma bind {f g : α × Bytes → Except Fault (β × Bytes)} (h : Later more x y)
    (hnext : ∀ a rest, Later more (f (a, rest)) (g (a, rest ++ more))) :
    Later more (x >>= f) (y >>= g) := by
  cases h with
  | brokenOff => exact .brokenOff _
  | refused fault => exact .refused fault
  | taken a rest => exact hnext a rest

/-- A step that takes no octets ends the same way. -/
lemma step (z : Except Fault γ) {f g : γ → Except Fault (α × Bytes)}
    (hnext : ∀ c, Later more (f c) (g c)) : Later more (z >>= f) (z >>= g) := by
  cases z with
  | error fault => exact .refused fault
  | ok c => exact hnext c

end Later

end Later

section Parse

variable (b more : Bytes)

lemma later_takeLine : Later more (takeLine b) (takeLine (b ++ more)) := by
  unfold takeLine
  cases h : b.splitLine? with
  | none => exact .brokenOff _
  | some parts =>
    rw [Bytes.splitLine?_append_right h more]
    exact .taken parts.1 parts.2

lemma later_takeBulk (length : Int) :
    Later more (takeBulk length b) (takeBulk length (b ++ more)) := by
  unfold takeBulk
  by_cases hnull : length = -1
  · simp only [if_pos hnull]
    exact .taken _ _
  simp only [if_neg hnull]
  by_cases hnegative : length < 0
  · simp only [if_pos hnegative]
    exact .refused _
  simp only [if_neg hnegative]
  by_cases hshort : b.length < length.toNat + 2
  · rw [if_pos hshort]
    exact .brokenOff _
  have hlong : ¬ (b ++ more).length < length.toNat + 2 := by
    rw [List.length_append]
    omega
  rw [if_neg hshort, if_neg hlong, List.take_append_of_le_length (by omega),
    List.drop_append_of_le_length (by omega)]
  exact .taken _ _

variable {more}

lemma later_takeMany {takeOne takeOne' : Bytes → Except Fault (Reply × Bytes)}
    (h : ∀ b, Later more (takeOne b) (takeOne' (b ++ more))) (count : Nat) :
    Later more (takeMany takeOne count b) (takeMany takeOne' count (b ++ more)) := by
  induction count generalizing b with
  | zero => exact .taken [] b
  | succ count ih =>
    rw [takeMany, takeMany]
    refine (h b).bind fun first rest => ?_
    exact (ih rest).bind fun others left => .taken (first :: others) left

/-- Reading may go deeper when more octets follow, and does not need to. -/
lemma later_parseWithin {depth depth' : Nat} (hdepth : depth ≤ depth') :
    Later more (parseWithin depth b) (parseWithin depth' (b ++ more)) := by
  induction depth generalizing depth' b with
  | zero => exact .brokenOff _
  | succ depth ih =>
    obtain ⟨deeper, rfl⟩ : ∃ deeper, depth' = deeper + 1 := ⟨depth' - 1, by omega⟩
    cases b with
    | nil => exact .brokenOff _
    | cons kind content =>
      have hline := later_takeLine content more
      rw [List.cons_append, parseWithin, parseWithin]
      by_cases hsimple : kind = 0x2B
      · simp only [if_pos hsimple]
        exact hline.bind fun line rest => .step _ fun text => .taken _ rest
      simp only [if_neg hsimple]
      by_cases herror : kind = 0x2D
      · simp only [if_pos herror]
        exact hline.bind fun line rest => .step _ fun text => .taken _ rest
      simp only [if_neg herror]
      by_cases hinteger : kind = 0x3A
      · simp only [if_pos hinteger]
        exact hline.bind fun line rest => .step _ fun value => .taken _ rest
      simp only [if_neg hinteger]
      by_cases hbulk : kind = 0x24
      · simp only [if_pos hbulk]
        exact hline.bind fun line rest => .step _ fun length => later_takeBulk rest more length
      simp only [if_neg hbulk]
      by_cases harray : kind = 0x2A
      · simp only [if_pos harray]
        refine hline.bind fun line rest => .step _ fun count => ?_
        by_cases hnull : count = -1
        · simp only [if_pos hnull]
          exact .taken _ rest
        · simp only [if_neg hnull]
          have hitem := fun b => ih b (Nat.le_of_succ_le_succ hdepth)
          have hitems := later_takeMany rest hitem count.toNat
          exact hitems.bind fun items left => .taken _ left
      · simp only [if_neg harray]
        exact .refused _

variable (more)

/-- **What was made of octets stays when more of them follow.** -/
theorem later_parse : Later more (parse b) (parse (b ++ more)) := by
  refine later_parseWithin b ?_
  rw [List.length_append]
  omega

end Parse

/-! ## A reply is read when all of it is there -/

/-- **A reply that was written is read to its last octet and no further, whatever follows; and it is
not read before its last octet is there.** -/
theorem parse_exactly {reply : Reply} (h : reply.Sendable) (hsized : reply.Sized) :
    (∀ rest, parse (reply.encode ++ rest) = .ok (reply, rest)) ∧
    ∀ cut, cut <+: reply.encode → cut ≠ reply.encode → parse cut = .error .incomplete := by
  refine ⟨parse_encode h hsized, fun cut hcut hproper => ?_⟩
  obtain ⟨missing, hwhole⟩ := hcut
  have hread : parse (cut ++ missing) = .ok (reply, []) := by
    rw [hwhole, ← List.append_nil reply.encode]
    exact parse_encode h hsized []
  have hlater := later_parse cut missing
  cases hparse : parse cut with
  | ok taken =>
    -- Nothing would be left for the octets that are missing.
    have hsame := hlater.of_ok hparse
    rw [hread] at hsame
    have hnone : taken.2 ++ missing = [] := (congrArg Prod.snd (Except.ok.inj hsame)).symm
    rw [(List.append_eq_nil_iff.mp hnone).2, List.append_nil] at hwhole
    exact absurd hwhole hproper
  | error fault =>
    by_cases hbroken : fault = .incomplete
    · rw [hbroken]
    · have hsame := hlater.of_error hparse hbroken
      rw [hread] at hsame
      cases hsame

/-- An error that says what errors start with, octets that look like replies, and nothing at all,
all of them inside lists. -/
theorem parse_exactly_nested :
    let reply : Reply := .array [.error "ERR \r", .bulk (Bytes.ofText "$-1\r\n"), .null, .array [],
      .array [.integer (-9223372036854775808), .simple "\n"]]
    (∀ rest, parse (reply.encode ++ rest) = .ok (reply, rest)) ∧
    ∀ cut, cut <+: reply.encode → cut ≠ reply.encode → parse cut = .error .incomplete := by
  intro reply
  have hline : ∀ text ∈ ["ERR \r", "\n"], Text.IsLine text := by decide
  have hfits : Decimal.fitsSigned64 (-9223372036854775808) := by decide
  have hlength : (Bytes.ofText "$-1\r\n").length < 2 ^ 63 := by decide
  have hsendable : reply.Sendable :=
    ⟨hline _ (by simp), trivial, trivial, trivial, ⟨hfits, hline _ (by simp), trivial⟩, trivial⟩
  have hsized : reply.Sized := by
    refine ⟨by decide, trivial, hlength, trivial, ⟨by decide, trivial⟩, ⟨by decide, ?_⟩, trivial⟩
    exact ⟨trivial, trivial, trivial⟩
  exact parse_exactly hsendable hsized

/-! ## What is left after a reply -/

section Leaves

variable {α β γ : Type} {b : Bytes}

/-- What is left is the end of the octets. -/
def LeavesEnd (b : Bytes) (x : Except Fault (α × Bytes)) : Prop :=
  ∀ a rest, x = .ok (a, rest) → rest <:+ b

lemma leavesEnd_pure (a : α) {rest : Bytes} (h : rest <:+ b) : LeavesEnd b (.ok (a, rest)) := by
  intro found left hfound
  obtain ⟨-, rfl⟩ := Prod.mk.inj (Except.ok.inj hfound)
  exact h

lemma leavesEnd_error (fault : Fault) : LeavesEnd b (.error fault : Except Fault (α × Bytes)) := by
  intro a rest h
  cases h

namespace LeavesEnd

lemma bind {x : Except Fault (α × Bytes)} {f : α × Bytes → Except Fault (β × Bytes)}
    (h : LeavesEnd b x) (hnext : ∀ a rest, rest <:+ b → LeavesEnd b (f (a, rest))) :
    LeavesEnd b (x >>= f) := by
  cases x with
  | error fault => exact leavesEnd_error fault
  | ok taken => exact hnext taken.1 taken.2 (h taken.1 taken.2 rfl)

lemma step (z : Except Fault γ) {f : γ → Except Fault (α × Bytes)}
    (hnext : ∀ c, LeavesEnd b (f c)) : LeavesEnd b (z >>= f) := by
  cases z with
  | error fault => exact leavesEnd_error fault
  | ok c => exact hnext c

lemma trans {x : Except Fault (α × Bytes)} {c : Bytes} (h : LeavesEnd b x) (hb : b <:+ c) :
    LeavesEnd c x :=
  fun a rest hx => (h a rest hx).trans hb

end LeavesEnd

end Leaves

lemma leavesEnd_takeLine (b : Bytes) : LeavesEnd b (takeLine b) := by
  unfold takeLine
  cases h : b.splitLine? with
  | none => exact leavesEnd_error _
  | some parts =>
    obtain ⟨hb, -⟩ := Bytes.splitLine?_eq_some.mp h
    exact leavesEnd_pure parts.1 ⟨parts.1 ++ Bytes.lineEnd, hb.symm⟩

lemma leavesEnd_takeBulk (length : Int) (b : Bytes) : LeavesEnd b (takeBulk length b) := by
  unfold takeBulk
  split
  · exact leavesEnd_pure _ (List.suffix_refl b)
  split
  · exact leavesEnd_error _
  split
  · exact leavesEnd_error _
  · exact leavesEnd_pure _ (List.drop_suffix _ b)

lemma leavesEnd_takeMany {takeOne : Bytes → Except Fault (Reply × Bytes)}
    (h : ∀ b, LeavesEnd b (takeOne b)) (count : Nat) (b : Bytes) :
    LeavesEnd b (takeMany takeOne count b) := by
  induction count generalizing b with
  | zero => exact leavesEnd_pure [] (List.suffix_refl b)
  | succ count ih =>
    rw [takeMany]
    refine (h b).bind fun first rest hrest => ?_
    refine ((ih rest).trans hrest).bind fun others left hleft => ?_
    exact leavesEnd_pure (first :: others) hleft

/-- The octet of its kind is never left. -/
lemma leavesEnd_parseWithin (depth : Nat) (b : Bytes) :
    LeavesEnd b.tail (parseWithin depth b) := by
  induction depth generalizing b with
  | zero => exact leavesEnd_error _
  | succ depth ih =>
    cases b with
    | nil => exact leavesEnd_error _
    | cons kind content =>
      have hline := leavesEnd_takeLine content
      have hitem : ∀ b, LeavesEnd b (parseWithin depth b) := fun b => (ih b).trans b.tail_suffix
      rw [parseWithin, List.tail_cons]
      split
      · exact hline.bind fun line rest hrest => .step _ fun text => leavesEnd_pure _ hrest
      split
      · exact hline.bind fun line rest hrest => .step _ fun text => leavesEnd_pure _ hrest
      split
      · exact hline.bind fun line rest hrest => .step _ fun value => leavesEnd_pure _ hrest
      split
      · exact hline.bind fun line rest hrest => .step _ fun length =>
          (leavesEnd_takeBulk length rest).trans hrest
      split
      · refine hline.bind fun line rest hrest => .step _ fun count => ?_
        split
        · exact leavesEnd_pure _ hrest
        · have hitems := (leavesEnd_takeMany hitem count.toNat rest).trans hrest
          exact hitems.bind fun items left hleft => leavesEnd_pure _ hleft
      · exact leavesEnd_error _

/-- Every reply takes something off the stream. -/
lemma length_lt_of_parse {b rest : Bytes} {reply : Reply} (h : parse b = .ok (reply, rest)) :
    rest.length < b.length := by
  have hend := leavesEnd_parseWithin (b.length + 1) b reply rest h
  cases b with
  | nil => cases h
  | cons kind content =>
    have hle := hend.length_le
    rw [List.tail_cons] at hle
    rw [List.length_cons]
    omega

/-! ## All replies of a stream -/

section ParseAll

variable {b rest : Bytes} {reply : Reply} {fault : Fault}

lemma parseUpTo_of_ok (limit : Nat) (h : parse b = .ok (reply, rest)) :
    parseUpTo (limit + 1) b = (reply :: (parseUpTo limit rest).1, (parseUpTo limit rest).2) := by
  rw [parseUpTo, h]

lemma parseUpTo_of_incomplete (limit : Nat) (h : parse b = .error .incomplete) :
    parseUpTo limit b = ([], none, b) := by
  cases limit with
  | zero => rfl
  | succ limit => rw [parseUpTo, h]

lemma parseUpTo_of_refused (limit : Nat) (h : parse b = .error fault)
    (hfault : fault ≠ .incomplete) : parseUpTo (limit + 1) b = ([], some fault, b) := by
  rw [parseUpTo, h]
  cases fault with
  | incomplete => exact absurd rfl hfault
  | _ => rfl

/-- Replies cannot outnumber their octets. -/
lemma parseUpTo_succ {limit : Nat} (h : b.length ≤ limit) :
    parseUpTo (limit + 1) b = parseUpTo limit b := by
  induction limit generalizing b with
  | zero =>
    obtain rfl : b = [] := List.eq_nil_of_length_eq_zero (by omega)
    rfl
  | succ limit ih =>
    cases hparse : parse b with
    | error fault =>
      by_cases hbroken : fault = .incomplete
      · rw [hbroken] at hparse
        rw [parseUpTo_of_incomplete _ hparse, parseUpTo_of_incomplete _ hparse]
      · rw [parseUpTo_of_refused _ hparse hbroken, parseUpTo_of_refused _ hparse hbroken]
    | ok taken =>
      have hless := length_lt_of_parse hparse
      rw [parseUpTo_of_ok _ hparse, parseUpTo_of_ok _ hparse, ih (by omega)]

lemma parseUpTo_length {limit : Nat} (h : b.length ≤ limit) : parseUpTo limit b = parseAll b := by
  induction h with
  | refl => rfl
  | step hle ih => rw [parseUpTo_succ hle, ih]

lemma parseAll_of_ok (h : parse b = .ok (reply, rest)) :
    parseAll b = (reply :: (parseAll rest).1, (parseAll rest).2) := by
  have hless := length_lt_of_parse h
  rw [← parseUpTo_length (Nat.le_succ b.length), parseUpTo_of_ok _ h,
    parseUpTo_length (Nat.le_of_lt hless)]

lemma parseAll_of_incomplete (h : parse b = .error .incomplete) : parseAll b = ([], none, b) :=
  parseUpTo_of_incomplete _ h

lemma parseAll_of_refused (h : parse b = .error fault) (hfault : fault ≠ .incomplete) :
    parseAll b = ([], some fault, b) := by
  rw [← parseUpTo_length (Nat.le_succ b.length), parseUpTo_of_refused _ h hfault]

/-- Reading stops where the octets break off. -/
lemma parse_left {replies : List Reply} {left : Bytes} (h : parseAll b = (replies, none, left)) :
    parse left = .error .incomplete := by
  induction hn : b.length using Nat.strongRecOn generalizing b replies with
  | ind n ih =>
    cases hparse : parse b with
    | error fault =>
      by_cases hbroken : fault = .incomplete
      · rw [hbroken] at hparse
        rw [parseAll_of_incomplete hparse] at h
        obtain ⟨-, -, rfl⟩ := h
        exact hparse
      · rw [parseAll_of_refused hparse hbroken] at h
        cases h
    | ok taken =>
      have hless := length_lt_of_parse hparse
      rw [parseAll_of_ok hparse] at h
      have hrest : parseAll taken.2 = ((parseAll taken.2).1, none, left) := by
        rw [← (Prod.mk.inj h).2]
      exact ih taken.2.length (by omega) hrest rfl

end ParseAll

/-- **Octets may be read in two parts**: what the first part leaves is read again in front of the
second, unless a fault ended it. -/
theorem parseAll_append (b more : Bytes) :
    parseAll (b ++ more) =
      match parseAll b with
      | (replies, some fault, left) => (replies, some fault, left ++ more)
      | (replies, none, left) =>
        (replies ++ (parseAll (left ++ more)).1, (parseAll (left ++ more)).2) := by
  induction hn : b.length using Nat.strongRecOn generalizing b with
  | ind n ih =>
    have hlater := later_parse b more
    cases hparse : parse b with
    | error fault =>
      by_cases hbroken : fault = .incomplete
      · rw [hbroken] at hparse
        simp [parseAll_of_incomplete hparse]
      · have hsame := hlater.of_error hparse hbroken
        rw [parseAll_of_refused hparse hbroken, parseAll_of_refused hsame hbroken]
    | ok taken =>
      have hless := length_lt_of_parse hparse
      rw [parseAll_of_ok hparse, parseAll_of_ok (hlater.of_ok hparse),
        ih taken.2.length (by omega) taken.2 rfl]
      rcases parseAll taken.2 with ⟨replies, fault, left⟩
      cases fault <;> simp

/-! ## However the stream is cut -/

/-- Reads replies off a stream that arrives in pieces, where `left` waits for more: with every piece
as many as are there then, until a fault ends it. -/
def parseChunks (left : Bytes) : List Bytes → List Reply × Option Fault × Bytes
  | [] => ([], none, left)
  | chunk :: chunks =>
    match parseAll (left ++ chunk) with
    | (replies, some fault, left) => (replies, some fault, left)
    | (replies, none, left) =>
      let (later, fault, last) := parseChunks left chunks
      (replies ++ later, fault, last)

/-- Pieces come to the same as their octets at once, behind what waited. -/
lemma parseChunks_eq {left : Bytes} (hleft : parse left = .error .incomplete)
    (chunks : List Bytes) :
    (parseChunks left chunks).1 = (parseAll (left ++ chunks.flatten)).1 ∧
    (parseChunks left chunks).2.1 = (parseAll (left ++ chunks.flatten)).2.1 ∧
    ((parseChunks left chunks).2.1 = none →
      (parseChunks left chunks).2.2 = (parseAll (left ++ chunks.flatten)).2.2) := by
  induction chunks generalizing left with
  | nil =>
    rw [List.flatten_nil, List.append_nil, parseAll_of_incomplete hleft]
    exact ⟨rfl, rfl, fun _ => rfl⟩
  | cons chunk chunks ih =>
    rw [List.flatten_cons, ← List.append_assoc, parseAll_append, parseChunks]
    rcases hall : parseAll (left ++ chunk) with ⟨replies, fault, waiting⟩
    cases fault with
    | some fault => exact ⟨rfl, rfl, fun hnone => by cases hnone⟩
    | none =>
      obtain ⟨hreplies, hfault, hlast⟩ := ih (parse_left hall)
      simp only
      exact ⟨by rw [hreplies], hfault, hlast⟩

/-- **However a stream is cut into pieces, the same replies come out of it in the same order, the
same fault ends it, if any does, and otherwise the same octets wait for more.** -/
theorem parseChunks_flatten (chunks : List Bytes) :
    (parseChunks [] chunks).1 = (parseAll chunks.flatten).1 ∧
    (parseChunks [] chunks).2.1 = (parseAll chunks.flatten).2.1 ∧
    ((parseAll chunks.flatten).2.1 = none →
      (parseChunks [] chunks).2.2 = (parseAll chunks.flatten).2.2) := by
  have hnothing : parse [] = .error .incomplete := rfl
  obtain ⟨hreplies, hfault, hlast⟩ := parseChunks_eq hnothing chunks
  rw [List.nil_append] at hreplies hfault hlast
  exact ⟨hreplies, hfault, fun hnone => hlast (hfault.trans hnone)⟩

end ReplicatedStore.Reply
