import Mathlib.Data.List.TakeWhile
import Mathlib.Tactic.Common
import ReplicatedStore.Pattern.Regex.Parser

/-!
# What a reader leaves

An expression may be read as part of a longer text.  What is read of it, and what is left, does not
depend on a closing parenthesis at the very end of what is left, as long as something stands before
that: no reader looks so far ahead that this parenthesis alone would change its mind.
`Regex.Leaves` says so of one reader, and there is a lemma for each; those for white space, numbers
and escapes stand here.
-/

namespace ReplicatedStore.Regex

/-! ## What is left -/

/-- The second text is the first one without the closing parenthesis at its end, and is not
empty. -/
structure Opened (rest rest' : List Char) : Prop where
  some : rest' ≠ []
  eq : rest = rest' ++ [')']

/-- Of a text the rest is left, and what was read before it goes in the same way (`same`) with any
rest that lacks the closing parenthesis at its end. -/
def Leaves (text rest : List Char) (same : List Char → List Char → Prop) : Prop :=
  ∃ used, text = used ++ rest ∧ ∀ rest', Opened rest rest' → same (used ++ rest') rest'

variable {text mid rest text' rest' r : List Char} {c : Char}
  {same same' : List Char → List Char → Prop}

lemma Opened.cons (h : Opened (c :: r) text') : ∃ r', text' = c :: r' ∧ r = r' ++ [')'] := by
  obtain ⟨d, r', rfl⟩ := List.exists_cons_of_ne_nil h.some
  obtain ⟨rfl, hr⟩ := List.cons.inj h.eq
  exact ⟨r', rfl, hr⟩

lemma Opened.append (used : List Char) (h : Opened rest rest') :
    Opened (used ++ rest) (used ++ rest') :=
  ⟨fun hnone => h.some (List.append_eq_nil_iff.mp hnone).2, by rw [h.eq, List.append_assoc]⟩

lemma Opened.not_nil (h : Opened [] rest') : False :=
  h.some (List.append_eq_nil_iff.mp h.eq.symm).1

/-- Nothing was read. -/
lemma Leaves.refl (h : ∀ text', Opened text text' → same text' text') : Leaves text text same :=
  ⟨[], rfl, h⟩

lemma Leaves.nothing : Leaves text text Eq :=
  .refl fun _ _ => rfl

/-- Nothing is left. -/
lemma Leaves.all : Leaves text [] same :=
  ⟨text, (List.append_nil text).symm, fun _ h => h.not_nil.elim⟩

/-- One thing was read after another. -/
lemma Leaves.trans (h : Leaves text mid same) (h' : Leaves mid rest same') :
    Leaves text rest fun text' rest' =>
      ∃ mid', Opened mid mid' ∧ mid' <:+ text' ∧ rest' <:+ mid' ∧ same text' mid' ∧
        same' mid' rest' := by
  obtain ⟨used, rfl, hsame⟩ := h
  obtain ⟨used', rfl, hsame'⟩ := h'
  refine ⟨used ++ used', (List.append_assoc _ _ _).symm, fun rest' hrest => ?_⟩
  have hmid := hrest.append used'
  refine ⟨used' ++ rest', hmid, ?_, List.suffix_append _ _, ?_, hsame' rest' hrest⟩
  · rw [List.append_assoc]
    exact List.suffix_append _ _
  · rw [List.append_assoc]
    exact hsame _ hmid

/-- A character was read before. -/
lemma Leaves.cons (h : Leaves r rest same) :
    Leaves (c :: r) rest fun text' rest' =>
      ∃ r', text' = c :: r' ∧ rest' <:+ r' ∧ same r' rest' := by
  obtain ⟨used, rfl, hsame⟩ := h
  exact ⟨c :: used, rfl, fun rest' hrest => ⟨_, rfl, List.suffix_append _ _, hsame rest' hrest⟩⟩

/-- The whole text lacks no more than the closing parenthesis. -/
lemma Leaves.opened (h : Leaves text rest same) :
    Leaves text rest fun text' rest' => Opened text text' ∧ same text' rest' := by
  obtain ⟨used, rfl, hsame⟩ := h
  exact ⟨used, rfl, fun rest' hrest => ⟨hrest.append used, hsame rest' hrest⟩⟩

lemma Leaves.imp (h : Leaves text rest same)
    (himp : ∀ text' rest', Opened rest rest' → rest' <:+ text' → same text' rest' →
      same' text' rest') : Leaves text rest same' := by
  obtain ⟨used, rfl, hsame⟩ := h
  exact ⟨used, rfl, fun rest' hrest =>
    himp _ rest' hrest (List.suffix_append _ _) (hsame rest' hrest)⟩

lemma Leaves.isSuffix (h : Leaves text rest same) : rest <:+ text := by
  obtain ⟨used, rfl, -⟩ := h
  exact List.suffix_append _ _

/-! ## White space -/

lemma leaves_dropBlank (inComment : Bool) (text : List Char) :
    Leaves text (dropBlank inComment text) fun text' rest' =>
      dropBlank inComment text' = rest' := by
  induction text generalizing inComment with
  | nil => exact .all
  | cons c rest ih =>
    rw [dropBlank]
    cases inComment with
    | true =>
      refine (ih _).cons.imp ?_
      rintro _ _ - - ⟨r', rfl, -, h⟩
      exact h
    | false =>
      rw [if_neg Bool.false_ne_true]
      split
      · rename_i hblank
        refine (ih _).cons.imp ?_
        rintro _ _ - - ⟨r', rfl, -, h⟩
        rw [dropBlank, if_neg Bool.false_ne_true, if_pos hblank, h]
      · rename_i hblank
        split
        · rename_i hmark
          refine (ih _).cons.imp ?_
          rintro _ _ - - ⟨r', rfl, -, h⟩
          rw [dropBlank, if_neg Bool.false_ne_true, if_neg hblank, if_pos hmark, h]
        · rename_i hmark
          refine .refl fun text' htext => ?_
          obtain ⟨r', rfl, -⟩ := htext.cons
          rw [dropBlank, if_neg Bool.false_ne_true, if_neg hblank, if_neg hmark]

lemma leaves_skip (verbose : Bool) (text : List Char) :
    Leaves text (skip verbose text) fun text' rest' => skip verbose text' = rest' := by
  cases verbose with
  | true => exact leaves_dropBlank false text
  | false => exact .refl fun text' _ => rfl

lemma skip_isSuffix (verbose : Bool) (text : List Char) : skip verbose text <:+ text :=
  (leaves_skip verbose text).isSuffix

lemma dropBlank_append {inComment : Bool} (h : dropBlank inComment text = c :: r)
    (more : List Char) : dropBlank inComment (text ++ more) = c :: r ++ more := by
  induction text generalizing inComment with
  | nil => cases h
  | cons d rest ih =>
    rw [dropBlank] at h
    rw [List.cons_append, dropBlank]
    cases inComment with
    | true => exact ih h
    | false =>
      rw [if_neg Bool.false_ne_true] at h ⊢
      split
      · rename_i hblank
        rw [if_pos hblank] at h
        exact ih h
      · rename_i hblank
        rw [if_neg hblank] at h
        split
        · rename_i hmark
          rw [if_pos hmark] at h
          exact ih h
        · rename_i hmark
          rw [if_neg hmark] at h
          rw [← h, List.cons_append]

/-- What is found behind white space is found there in a longer text, too. -/
lemma skip_append {verbose : Bool} (h : skip verbose text = c :: r) (more : List Char) :
    skip verbose (text ++ more) = c :: r ++ more := by
  cases verbose with
  | true => exact dropBlank_append h more
  | false => exact congrArg (· ++ more) h

/-- White space was skipped before. -/
lemma Leaves.afterSkip {verbose : Bool} (h : Leaves (skip verbose text) rest same) :
    Leaves text rest fun text' rest' => same (skip verbose text') rest' := by
  refine ((leaves_skip verbose text).trans h).imp ?_
  rintro text' rest' - - ⟨mid', -, -, -, rfl, hsame⟩
  exact hsame

/-- White space and a character were read before. -/
lemma Leaves.behind {verbose : Bool} (h : Leaves r rest same) (hskip : skip verbose text = c :: r) :
    Leaves text rest fun text' rest' =>
      ∃ r', skip verbose text' = c :: r' ∧ r'.length < text'.length ∧ rest' <:+ r' ∧
        same r' rest' := by
  have hcons := h.cons (c := c)
  rw [← hskip] at hcons
  refine hcons.afterSkip.imp ?_
  rintro text' rest' - - ⟨r', hskip', hsuffix, hsame⟩
  have hshort := (skip_isSuffix verbose text').length_le
  rw [hskip', List.length_cons] at hshort
  exact ⟨r', hskip', by omega, hsuffix, hsame⟩

lemma leaves_dropWhile (p : Char → Bool) (text : List Char) :
    Leaves text (text.dropWhile p) fun text' rest' => text'.dropWhile p = rest' := by
  induction text with
  | nil => exact .all
  | cons c rest ih =>
    by_cases hc : p c = true
    · rw [List.dropWhile_cons_of_pos hc]
      refine ih.cons.imp ?_
      rintro _ _ - - ⟨r', rfl, -, h⟩
      rw [List.dropWhile_cons_of_pos hc, h]
    · rw [List.dropWhile_cons_of_neg hc]
      refine .refl fun text' htext => ?_
      obtain ⟨r', rfl, -⟩ := htext.cons
      exact List.dropWhile_cons_of_neg hc

/-- No mark stands before the first one. -/
lemma ne_of_mem_takeWhile {mark : Char} (h : c ∈ text.takeWhile (· ≠ mark)) :
    decide (c ≠ mark) = true :=
  List.mem_takeWhile_imp (p := fun c => decide (c ≠ mark)) h

/-- What stands before the first mark stands before it in any text that goes on behind the mark. -/
lemma takeWhile_append_mark (mark : Char) (text after : List Char) :
    (text.takeWhile (· ≠ mark) ++ mark :: after).takeWhile (· ≠ mark) =
      text.takeWhile (· ≠ mark) := by
  rw [List.takeWhile_append_of_pos fun c => ne_of_mem_takeWhile,
    List.takeWhile_cons_of_neg (by simp), List.append_nil]

lemma dropWhile_append_mark (mark : Char) (text after : List Char) :
    (text.takeWhile (· ≠ mark) ++ mark :: after).dropWhile (· ≠ mark) = mark :: after := by
  rw [List.dropWhile_append_of_pos fun c => ne_of_mem_takeWhile,
    List.dropWhile_cons_of_neg (by simp)]

/-- A budget that allows for a text of one more character. -/
lemma exists_budget {m : Nat} (h : (c :: r).length ≤ m) : ∃ n, m = n + 1 ∧ r.length ≤ n := by
  rw [List.length_cons] at h
  exact ⟨m - 1, by omega, by omega⟩

lemma exists_budget_lt {m : Nat} (h : (c :: r).length < m) : ∃ n, m = n + 1 ∧ r.length < n := by
  rw [List.length_cons] at h
  exact ⟨m - 1, by omega, by omega⟩

/-! ## Numbers -/

lemma leaves_takeDigits {verbose : Bool} {n : Nat} {value x : Option Nat}
    (h : takeDigits verbose n value text = (x, rest)) (hn : text.length ≤ n) :
    Leaves text rest fun text' rest' =>
      ∀ m, text'.length ≤ m → takeDigits verbose m value text' = (x, rest') := by
  induction n generalizing value text with
  | zero =>
    obtain rfl := List.length_eq_zero_iff.mp (Nat.le_zero.mp hn)
    cases h
    exact .all
  | succ n ih =>
    cases text with
    | nil =>
      cases h
      exact .all
    | cons c r =>
      rw [List.length_cons] at hn
      rw [takeDigits] at h
      split at h
      · rename_i hdigit
        have hshort := (skip_isSuffix verbose r).length_le
        refine (ih h (by omega)).afterSkip.cons.imp ?_
        rintro _ _ - - ⟨r', rfl, -, hsame⟩ m hm
        obtain ⟨m, rfl, hm⟩ := exists_budget hm
        have hshort' := (skip_isSuffix verbose r').length_le
        rw [takeDigits, if_pos hdigit]
        exact hsame m (by omega)
      · rename_i hdigit
        cases h
        refine .refl fun text' htext m hm => ?_
        obtain ⟨r', rfl, -⟩ := htext.cons
        obtain ⟨m, rfl, -⟩ := exists_budget hm
        rw [takeDigits, if_neg hdigit]

lemma leaves_takeCount {verbose : Bool} {x : Option Nat} (h : takeCount verbose text = (x, rest)) :
    Leaves text rest fun text' rest' => takeCount verbose text' = (x, rest') := by
  obtain ⟨⟨value, left⟩, hdigits⟩ : ∃ parts, takeDigits verbose
      (text.dropWhile Text.isBlank).length none (text.dropWhile Text.isBlank) = parts := ⟨_, rfl⟩
  rw [takeCount, hdigits] at h
  obtain ⟨rfl, rfl⟩ := Prod.mk.inj h
  have hbehind := (leaves_dropWhile Text.isBlank left).trans (leaves_skip verbose _)
  refine ((leaves_dropWhile Text.isBlank text).trans
    ((leaves_takeDigits hdigits (Nat.le_refl _)).trans hbehind)).imp ?_
  rintro text' rest' - - ⟨start, -, -, -, rfl, left', -, -, -, hdigits', _, -, -, -, rfl, hskip⟩
  rw [takeCount, hdigits' _ (Nat.le_refl _), ← hskip]

/-! ## Escapes -/

lemma leaves_takeHexDigits {verbose : Bool} {count value n : Nat}
    (h : takeHexDigits verbose count value text = some (n, rest)) :
    Leaves text rest fun text' rest' =>
      takeHexDigits verbose count value text' = some (n, rest') := by
  induction count generalizing value text with
  | zero =>
    cases h
    exact .refl fun text' _ => rfl
  | succ count ih =>
    cases text with
    | nil => cases h
    | cons c r =>
      rw [takeHexDigits] at h
      cases hdigit : Text.hexValue? c with
      | none =>
        rw [hdigit] at h
        cases h
      | some d =>
        rw [hdigit] at h
        refine (ih h).afterSkip.cons.imp ?_
        rintro _ _ - - ⟨r', rfl, -, hsame⟩
        rw [takeHexDigits, hdigit]
        exact hsame

lemma leaves_takeHexBraced {verbose : Bool} {budget n : Nat} {value : Option Nat}
    (h : takeHexBraced verbose budget value text = some (n, rest)) :
    Leaves text rest fun text' rest' =>
      ∀ m, text'.length < m → takeHexBraced verbose m value text' = some (n, rest') := by
  induction budget generalizing value text with
  | zero => cases h
  | succ budget ih =>
    cases text with
    | nil => cases h
    | cons c r =>
      rw [takeHexBraced] at h
      split at h
      · rename_i hclose
        obtain ⟨k, hvalue, heq⟩ := Option.map_eq_some_iff.mp h
        obtain ⟨rfl, rfl⟩ := Prod.mk.inj heq
        refine (leaves_skip verbose r).cons.imp ?_
        rintro _ _ - - ⟨r', rfl, -, rfl⟩ m hm
        obtain ⟨m, rfl, -⟩ := exists_budget_lt hm
        rw [takeHexBraced, if_pos hclose, hvalue]
        rfl
      · rename_i hclose
        cases hdigit : Text.hexValue? c with
        | none =>
          rw [hdigit] at h
          cases h
        | some d =>
          rw [hdigit] at h
          refine (ih h).afterSkip.cons.imp ?_
          rintro _ _ - - ⟨r', rfl, -, hsame⟩ m hm
          obtain ⟨m, rfl, hm⟩ := exists_budget_lt hm
          have hshort := (skip_isSuffix verbose r').length_le
          rw [takeHexBraced, if_neg hclose, hdigit]
          exact hsame m (by omega)

lemma takeCodePoint_braced {verbose : Bool} (digits : Nat) (h : skip verbose text = '{' :: r) :
    takeCodePoint verbose digits text =
      (takeHexBraced verbose ((skip verbose r).length + 1) none (skip verbose r)).bind fun found =>
        (Text.charOf? found.1).map fun d => (⟨d, false⟩, found.2) := by
  rw [takeCodePoint]
  split
  · rename_i r' hbrace
    obtain rfl := (List.cons.inj (h.symm.trans hbrace)).2
    dsimp only
    cases takeHexBraced verbose ((skip verbose r).length + 1) none (skip verbose r) <;> rfl
  · rename_i hnone
    exact absurd h (hnone r)

lemma takeCodePoint_plain {verbose : Bool} (digits : Nat) (h : ∀ r, skip verbose text ≠ '{' :: r) :
    takeCodePoint verbose digits text =
      (takeHexDigits verbose digits 0 (skip verbose text)).bind fun found =>
        (Text.charOf? found.1).map fun d => (⟨d, digits == 2⟩, found.2) := by
  rw [takeCodePoint]
  split
  · rename_i r hbrace
    exact absurd hbrace (h r)
  · cases takeHexDigits verbose digits 0 (skip verbose text) <;> rfl

lemma leaves_takeCodePoint {verbose : Bool} {digits : Nat} {l : Literal}
    (h : takeCodePoint verbose digits text = some (l, rest)) :
    Leaves text rest fun text' rest' => takeCodePoint verbose digits text' = some (l, rest') := by
  by_cases hbrace : ∃ r, skip verbose text = '{' :: r
  · obtain ⟨r, hskip⟩ := hbrace
    rw [takeCodePoint_braced digits hskip, Option.bind_eq_some_iff] at h
    obtain ⟨⟨n, left⟩, hdigits, hchar⟩ := h
    obtain ⟨d, hd, heq⟩ := Option.map_eq_some_iff.mp hchar
    obtain ⟨rfl, rfl⟩ := Prod.mk.inj heq
    have hread := (leaves_takeHexBraced hdigits).afterSkip.cons (c := '{')
    rw [← hskip] at hread
    refine hread.afterSkip.imp ?_
    rintro text' rest' - - ⟨r', hskip', -, hsame⟩
    rw [takeCodePoint_braced digits hskip', hsame _ (Nat.lt_succ_self _)]
    simp only [Option.bind_some, hd, Option.map_some]
  · have hplain : ∀ r, skip verbose text ≠ '{' :: r := fun r hr => hbrace ⟨r, hr⟩
    rw [takeCodePoint_plain digits hplain, Option.bind_eq_some_iff] at h
    obtain ⟨⟨n, left⟩, hdigits, hchar⟩ := h
    obtain ⟨d, hd, heq⟩ := Option.map_eq_some_iff.mp hchar
    obtain ⟨rfl, rfl⟩ := Prod.mk.inj heq
    refine (leaves_takeHexDigits hdigits).opened.afterSkip.imp ?_
    rintro text' rest' - - ⟨hopened, hsame⟩
    have hplain' : ∀ r, skip verbose text' ≠ '{' :: r := by
      intro r hr
      rw [hr] at hopened
      exact hplain _ hopened.eq
    rw [takeCodePoint_plain digits hplain', hsame]
    simp only [Option.bind_some, hd, Option.map_some]

lemma takeBraced_close {verbose : Bool} {n : Nat} (h : skip verbose text = '}' :: r) :
    takeBraced verbose (n + 1) text = some ([], r) := by
  rw [takeBraced]
  split
  · rename_i hnil
    cases h.symm.trans hnil
  · rename_i r' hclose
    rw [(List.cons.inj (h.symm.trans hclose)).2]
  · rename_i hnone hcons
    obtain ⟨hc, -⟩ := List.cons.inj (h.symm.trans hcons)
    exact absurd hc.symm hnone

lemma takeBraced_cons {verbose : Bool} {n : Nat} (h : skip verbose text = c :: r) (hc : c ≠ '}') :
    takeBraced verbose (n + 1) text =
      (takeBraced verbose n r).map fun found => (c :: found.1, found.2) := by
  rw [takeBraced]
  split
  · rename_i hnil
    cases h.symm.trans hnil
  · rename_i r' hclose
    exact absurd (List.cons.inj (h.symm.trans hclose)).1 hc
  · rename_i d r' _ hcons
    obtain ⟨rfl, rfl⟩ := List.cons.inj (h.symm.trans hcons)
    rfl

lemma takeBraced_nil {verbose : Bool} {n : Nat} (h : skip verbose text = []) :
    takeBraced verbose (n + 1) text = none := by
  rw [takeBraced, h]

lemma leaves_takeBraced {verbose : Bool} {budget : Nat} {inside : List Char}
    (h : takeBraced verbose budget text = some (inside, rest)) :
    Leaves text rest fun text' rest' =>
      ∀ m, text'.length < m → takeBraced verbose m text' = some (inside, rest') := by
  induction budget generalizing text inside with
  | zero => cases h
  | succ budget ih =>
    cases hskip : skip verbose text with
    | nil =>
      rw [takeBraced_nil hskip] at h
      cases h
    | cons c r =>
      by_cases hclose : c = '}'
      · subst hclose
        rw [takeBraced_close hskip] at h
        cases h
        refine (Leaves.nothing.behind hskip).imp ?_
        rintro text' rest' - - ⟨r', hskip', -, -, rfl⟩ m hm
        obtain ⟨n, rfl⟩ := Nat.exists_eq_add_one_of_ne_zero (Nat.ne_zero_of_lt hm)
        exact takeBraced_close hskip'
      · rw [takeBraced_cons hskip hclose] at h
        obtain ⟨⟨more, left⟩, hmore, heq⟩ := Option.map_eq_some_iff.mp h
        obtain ⟨rfl, rfl⟩ := Prod.mk.inj heq
        refine ((ih hmore).behind hskip).imp ?_
        rintro text' rest' - - ⟨r', hskip', hlength, -, hsame⟩ m hm
        obtain ⟨n, rfl⟩ := Nat.exists_eq_add_one_of_ne_zero (Nat.ne_zero_of_lt hm)
        rw [takeBraced_cons hskip' hclose, hsame n (by omega)]
        rfl

lemma takeProperty_nil {verbose negated : Bool} (h : skip verbose text = []) :
    takeProperty verbose negated text = none := by
  rw [takeProperty, h]

lemma takeProperty_braced {verbose negated : Bool} (h : skip verbose text = '{' :: r) :
    takeProperty verbose negated text =
      (takeBraced verbose (r.length + 1) r).map fun found =>
        (.property (negated != (propertyOf found.1).1) (propertyOf found.1).2, found.2) := by
  rw [takeProperty]
  split
  · rename_i hnil
    cases h.symm.trans hnil
  · rename_i r' hbrace
    rw [(List.cons.inj (h.symm.trans hbrace)).2]
  · rename_i hnone hcons
    obtain ⟨hc, -⟩ := List.cons.inj (h.symm.trans hcons)
    exact absurd hc.symm hnone

lemma takeProperty_cons {verbose negated : Bool} (h : skip verbose text = c :: r) (hc : c ≠ '{') :
    takeProperty verbose negated text =
      if c = '\\' then none else some (.property negated (.plain (String.singleton c)), r) := by
  rw [takeProperty]
  split
  · rename_i hnil
    cases h.symm.trans hnil
  · rename_i r' hbrace
    exact absurd (List.cons.inj (h.symm.trans hbrace)).1 hc
  · rename_i d r' _ hcons
    obtain ⟨rfl, rfl⟩ := List.cons.inj (h.symm.trans hcons)
    rfl

lemma leaves_takeProperty {verbose negated : Bool} {e : Escape}
    (h : takeProperty verbose negated text = some (e, rest)) :
    Leaves text rest fun text' rest' =>
      takeProperty verbose negated text' = some (e, rest') := by
  cases hskip : skip verbose text with
  | nil =>
    rw [takeProperty_nil hskip] at h
    cases h
  | cons c r =>
    by_cases hbrace : c = '{'
    · subst hbrace
      rw [takeProperty_braced hskip] at h
      obtain ⟨⟨inside, left⟩, hinside, heq⟩ := Option.map_eq_some_iff.mp h
      obtain ⟨rfl, rfl⟩ := Prod.mk.inj heq
      refine ((leaves_takeBraced hinside).behind hskip).imp ?_
      rintro text' rest' - - ⟨r', hskip', -, -, hsame⟩
      rw [takeProperty_braced hskip', hsame _ (Nat.lt_succ_self _)]
      rfl
    · rw [takeProperty_cons hskip hbrace] at h
      split at h
      · cases h
      · rename_i hslash
        cases h
        refine (Leaves.nothing.behind hskip).imp ?_
        rintro text' rest' - - ⟨r', hskip', -, -, rfl⟩
        rw [takeProperty_cons hskip' hbrace, if_neg hslash]

/-! ### Word boundaries -/

lemma leaves_takeBoundaryName {verbose : Bool} {n : Nat} {name : List Char}
    (h : takeBoundaryName verbose n text = (name, rest)) (hn : text.length ≤ n) :
    Leaves text rest fun text' rest' =>
      ∀ m, text'.length ≤ m → takeBoundaryName verbose m text' = (name, rest') := by
  induction n generalizing text name with
  | zero =>
    obtain rfl := List.length_eq_zero_iff.mp (Nat.le_zero.mp hn)
    cases h
    exact .all
  | succ n ih =>
    cases text with
    | nil =>
      cases h
      exact .all
    | cons c r =>
      rw [List.length_cons] at hn
      rw [takeBoundaryName] at h
      split at h
      · rename_i hc
        have hshort := (skip_isSuffix verbose r).length_le
        obtain ⟨rfl, hrest⟩ := Prod.mk.inj h
        refine (ih (Prod.ext rfl hrest) (by omega)).afterSkip.cons.imp ?_
        rintro _ _ - - ⟨r', rfl, -, hsame⟩ m hm
        obtain ⟨m, rfl, hm⟩ := exists_budget hm
        have hshort' := (skip_isSuffix verbose r').length_le
        rw [takeBoundaryName, if_pos hc, hsame m (by omega)]
      · rename_i hc
        cases h
        refine .refl fun text' htext m hm => ?_
        obtain ⟨r', rfl, -⟩ := htext.cons
        obtain ⟨m, rfl, -⟩ := exists_budget hm
        rw [takeBoundaryName, if_neg hc]

lemma takeBoundary_plain {verbose : Bool} (h : ∀ inside, text ≠ '{' :: inside) :
    takeBoundary verbose text = some (.wordBoundary, text) := by
  rw [takeBoundary]
  exact h

lemma takeBoundary_nil {verbose : Bool} {inside : List Char} (h : skip verbose inside = []) :
    takeBoundary verbose ('{' :: inside) = none := by
  rw [takeBoundary, h]

lemma takeBoundary_other {verbose : Bool} {inside : List Char} (h : skip verbose inside = c :: r)
    (hc : ¬ isBoundaryNameChar c) :
    takeBoundary verbose ('{' :: inside) = some (.wordBoundary, '{' :: inside) := by
  rw [takeBoundary, h]
  exact if_neg hc

lemma takeBoundary_named {verbose : Bool} {inside name : List Char}
    (h : skip verbose inside = c :: r) (hc : isBoundaryNameChar c)
    (hname : takeBoundaryName verbose (c :: r).length (c :: r) = (name, '}' :: rest)) :
    takeBoundary verbose ('{' :: inside) =
      (boundaryOfName (String.ofList name)).map fun a => (a, rest) := by
  rw [takeBoundary, h]
  dsimp only
  rw [if_pos hc, hname]
  rfl

lemma takeBoundary_unnamed {verbose : Bool} {inside name left : List Char}
    (h : skip verbose inside = c :: r) (hc : isBoundaryNameChar c)
    (hname : takeBoundaryName verbose (c :: r).length (c :: r) = (name, left))
    (hleft : ∀ rest, left ≠ '}' :: rest) : takeBoundary verbose ('{' :: inside) = none := by
  rw [takeBoundary, h]
  dsimp only
  rw [if_pos hc, hname]
  dsimp only
  split
  · rename_i rest
    exact absurd rfl (hleft rest)
  · rfl

/-- An opening brace that is left must have something behind it, on which it depends whether it
names a word boundary. -/
def Decided (verbose : Bool) (rest : List Char) : Prop :=
  ∀ inside, rest = '{' :: inside → skip verbose inside ≠ []

lemma leaves_takeBoundary {verbose : Bool} {a : Assertion}
    (h : takeBoundary verbose text = some (a, rest)) :
    Leaves text rest fun text' rest' =>
      Decided verbose rest' → takeBoundary verbose text' = some (a, rest') := by
  by_cases hbrace : ∃ inside, text = '{' :: inside
  · obtain ⟨inside, rfl⟩ := hbrace
    cases hskip : skip verbose inside with
    | nil =>
      rw [takeBoundary_nil hskip] at h
      cases h
    | cons c r =>
      by_cases hc : isBoundaryNameChar c
      · obtain ⟨⟨name, left⟩, hname⟩ : ∃ found,
            takeBoundaryName verbose (c :: r).length (c :: r) = found := ⟨_, rfl⟩
        by_cases hleft : ∃ rest, left = '}' :: rest
        · obtain ⟨rest, rfl⟩ := hleft
          rw [takeBoundary_named hskip hc hname] at h
          obtain ⟨found, hfound, heq⟩ := Option.map_eq_some_iff.mp h
          obtain ⟨rfl, rfl⟩ := Prod.mk.inj heq
          have hread := ((leaves_takeBoundaryName hname (Nat.le_refl _)).trans
            (Leaves.nothing.cons (c := '}'))).opened
          rw [← hskip] at hread
          refine hread.afterSkip.cons.imp ?_
          rintro _ rest' - - ⟨inside', rfl, -, hopened, mid', -, -, -, hname', _, rfl, -, rfl⟩ -
          rw [hskip] at hopened
          obtain ⟨r', hskip', -⟩ := hopened.cons
          rw [hskip'] at hname'
          rw [takeBoundary_named hskip' hc (hname' _ (Nat.le_refl _)), hfound]
          rfl
        · rw [takeBoundary_unnamed hskip hc hname fun rest heq => hleft ⟨rest, heq⟩] at h
          cases h
      · rw [takeBoundary_other hskip hc] at h
        cases h
        refine .refl fun text' htext hdecided => ?_
        obtain ⟨inside', rfl, hinside⟩ := htext.cons
        -- The same character comes next behind the brace, as something does.
        obtain ⟨d, r', hskip'⟩ := List.exists_cons_of_ne_nil (hdecided inside' rfl)
        have hlonger := skip_append hskip' [')']
        rw [← hinside, hskip] at hlonger
        obtain ⟨rfl, -⟩ := List.cons.inj hlonger
        exact takeBoundary_other hskip' hc
  · have hplain : ∀ inside, text ≠ '{' :: inside := fun inside heq => hbrace ⟨inside, heq⟩
    rw [takeBoundary_plain hplain] at h
    cases h
    refine .refl fun text' htext _ => takeBoundary_plain fun inside heq => ?_
    subst heq
    exact hplain _ htext.eq

/-! ### What follows a backslash -/

lemma takeEscape_point {verbose : Bool} {digits : Nat}
    (h : c = 'x' ∧ digits = 2 ∨ c = 'u' ∧ digits = 4 ∨ c = 'U' ∧ digits = 8) (r : List Char) :
    takeEscape verbose (c :: r) =
      (takeCodePoint verbose digits r).map fun found => (.literal found.1, found.2) := by
  rcases h with ⟨rfl, rfl⟩ | ⟨rfl, rfl⟩ | ⟨rfl, rfl⟩ <;> rfl

lemma takeEscape_property {verbose negated : Bool}
    (h : c = 'p' ∧ negated = false ∨ c = 'P' ∧ negated = true) (r : List Char) :
    takeEscape verbose (c :: r) = takeProperty verbose negated r := by
  rcases h with ⟨rfl, rfl⟩ | ⟨rfl, rfl⟩ <;> rfl

/-- Any other character says on its own what it means behind a backslash. -/
lemma takeEscape_other {verbose : Bool} (h : ∀ d ∈ ['x', 'u', 'U', 'p', 'P', 'b'], c ≠ d) :
    ∃ e : Option Escape, ∀ r, takeEscape verbose (c :: r) = e.map (·, r) := by
  simp only [List.forall_mem_cons] at h
  obtain ⟨hx, hu, hlong, hp, hnot, hb, -⟩ := h
  simp only [takeEscape, if_neg hx, if_neg hu, if_neg hlong, if_neg hp, if_neg hnot, if_neg hb]
  split
  · exact ⟨some _, fun r => rfl⟩
  · split
    · exact ⟨some _, fun r => rfl⟩
    · exact ⟨some _, fun r => rfl⟩
    · exact ⟨some _, fun r => rfl⟩
    · exact ⟨none, fun r => rfl⟩

lemma leaves_takeEscape {verbose : Bool} {e : Escape}
    (h : takeEscape verbose (c :: r) = some (e, rest)) :
    Leaves r rest fun r' rest' =>
      ((∃ a, e = .assertion a) → Decided verbose rest') →
        takeEscape verbose (c :: r') = some (e, rest') := by
  by_cases hpoint : ∃ digits, c = 'x' ∧ digits = 2 ∨ c = 'u' ∧ digits = 4 ∨ c = 'U' ∧ digits = 8
  · obtain ⟨digits, hdigits⟩ := hpoint
    rw [takeEscape_point hdigits] at h
    obtain ⟨⟨l, left⟩, hread, heq⟩ := Option.map_eq_some_iff.mp h
    obtain ⟨rfl, rfl⟩ := Prod.mk.inj heq
    refine (leaves_takeCodePoint hread).imp ?_
    rintro r' rest' - - hsame -
    rw [takeEscape_point hdigits, hsame]
    rfl
  by_cases hproperty : ∃ negated, c = 'p' ∧ negated = false ∨ c = 'P' ∧ negated = true
  · obtain ⟨negated, hnegated⟩ := hproperty
    rw [takeEscape_property hnegated] at h
    refine (leaves_takeProperty h).imp ?_
    rintro r' rest' - - hsame -
    rw [takeEscape_property hnegated, hsame]
  by_cases hb : c = 'b'
  · subst hb
    obtain ⟨⟨a, left⟩, hread, heq⟩ := Option.map_eq_some_iff.mp
      (show (takeBoundary verbose r).map _ = some (e, rest) from h)
    obtain ⟨rfl, rfl⟩ := Prod.mk.inj heq
    refine (leaves_takeBoundary hread).imp ?_
    rintro r' rest' - - hsame hdecided
    show (takeBoundary verbose r').map _ = _
    rw [hsame (hdecided ⟨a, rfl⟩)]
    rfl
  · have hother : ∀ d ∈ ['x', 'u', 'U', 'p', 'P', 'b'], c ≠ d := by
      rintro d hd rfl
      simp only [List.mem_cons, List.not_mem_nil, or_false] at hd
      rcases hd with rfl | rfl | rfl | rfl | rfl | rfl
      · exact hpoint ⟨2, .inl ⟨rfl, rfl⟩⟩
      · exact hpoint ⟨4, .inr (.inl ⟨rfl, rfl⟩)⟩
      · exact hpoint ⟨8, .inr (.inr ⟨rfl, rfl⟩)⟩
      · exact hproperty ⟨false, .inl ⟨rfl, rfl⟩⟩
      · exact hproperty ⟨true, .inr ⟨rfl, rfl⟩⟩
      · exact hb rfl
    obtain ⟨found, hfound⟩ := @takeEscape_other c verbose hother
    rw [hfound] at h
    obtain ⟨e', rfl, heq⟩ := Option.map_eq_some_iff.mp h
    obtain ⟨rfl, rfl⟩ := Prod.mk.inj heq
    exact .refl fun r' _ _ => hfound r'

end ReplicatedStore.Regex
