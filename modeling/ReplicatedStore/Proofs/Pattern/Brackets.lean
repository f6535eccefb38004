import ReplicatedStore.Proofs.Pattern.Leaves

/-!
# What the reader of brackets leaves

Brackets are read with what may stand in them: named classes, ranges, other brackets and operations
between classes.  Where the reader looks ahead, for a hyphen that makes no range or for the end of a
name in colons, it finds nothing but what stands before the closing parenthesis that ends the text
(`Regex.leaves_takeBracketed`).
-/

namespace ReplicatedStore.Regex

variable {text mid rest text' rest' r : List Char} {c : Char}
  {same same' : List Char → List Char → Prop}

/-! ## Named classes -/

lemma takeNamedClass?_negated (text : List Char) :
    takeNamedClass? (':' :: '^' :: text) = takeClassName true text :=
  rfl

lemma takeNamedClass?_plain (h : ∀ r, text ≠ '^' :: r) :
    takeNamedClass? (':' :: text) = takeClassName false text := by
  rw [takeNamedClass?]
  exact h

lemma takeNamedClass?_none (h : ∀ r, text ≠ ':' :: r) : takeNamedClass? text = none := by
  rw [takeNamedClass?]
  · exact fun rest => h ('^' :: rest)
  · exact h

/-- A name stands before a colon and a bracket. -/
lemma takeClassName_eq_some {negated : Bool} {set : ClassSet}
    (h : takeClassName negated text = some (set, rest)) :
    ∃ name, text = name ++ ':' :: ']' :: rest ∧ ∀ after,
      takeClassName negated (name ++ ':' :: ']' :: after) = some (set, after) := by
  rw [takeClassName] at h
  split at h
  · rename_i after hdrop
    obtain ⟨kind, hkind, heq⟩ := Option.map_eq_some_iff.mp h
    obtain ⟨rfl, rfl⟩ := Prod.mk.inj heq
    refine ⟨text.takeWhile (· ≠ ':'), ?_, fun after => ?_⟩
    · rw [← hdrop, List.takeWhile_append_dropWhile]
    · rw [takeClassName, takeWhile_append_mark, dropWhile_append_mark]
      exact congrArg (Option.map _) hkind
  · cases h

/-- A named class ends with its bracket, whatever stands behind. -/
lemma takeNamedClass?_eq_some {set : ClassSet} (h : takeNamedClass? text = some (set, rest)) :
    ∃ used, text = used ++ rest ∧ ∀ after, takeNamedClass? (used ++ after) = some (set, after) := by
  by_cases hcolon : ∃ tail, text = ':' :: tail
  · obtain ⟨tail, rfl⟩ := hcolon
    by_cases hnegated : ∃ r, tail = '^' :: r
    · obtain ⟨r, rfl⟩ := hnegated
      rw [takeNamedClass?_negated] at h
      obtain ⟨name, rfl, hname⟩ := takeClassName_eq_some h
      refine ⟨':' :: '^' :: name ++ [':', ']'], by simp, fun after => ?_⟩
      have hcut : ':' :: '^' :: name ++ [':', ']'] ++ after =
          ':' :: '^' :: (name ++ ':' :: ']' :: after) := by simp
      rw [hcut, takeNamedClass?_negated, hname]
    · have hplain : ∀ r, tail ≠ '^' :: r := fun r heq => hnegated ⟨r, heq⟩
      rw [takeNamedClass?_plain hplain] at h
      obtain ⟨name, rfl, hname⟩ := takeClassName_eq_some h
      refine ⟨':' :: name ++ [':', ']'], by simp, fun after => ?_⟩
      have hcut : ':' :: name ++ [':', ']'] ++ after = ':' :: (name ++ ':' :: ']' :: after) := by
        simp
      rw [hcut, takeNamedClass?_plain, hname]
      intro r heq
      cases name with
      | nil => cases heq
      | cons c others => exact hplain _ (by rw [(List.cons.inj heq).1]; rfl)
  · rw [takeNamedClass?_none fun r heq => hcolon ⟨r, heq⟩] at h
    cases h

lemma leaves_takeNamedClass? {set : ClassSet} (h : takeNamedClass? text = some (set, rest)) :
    Leaves text rest fun text' rest' => takeNamedClass? text' = some (set, rest') := by
  obtain ⟨used, hcut, hafter⟩ := takeNamedClass?_eq_some h
  exact ⟨used, hcut, fun rest' _ => hafter rest'⟩

/-- What is no named class is none without the closing parenthesis at its end. -/
lemma takeNamedClass?_opened (hopened : text = text' ++ [')']) (h : takeNamedClass? text = none) :
    takeNamedClass? text' = none := by
  by_contra hsome
  obtain ⟨⟨set, rest⟩, hfound⟩ := Option.ne_none_iff_exists'.mp hsome
  obtain ⟨used, rfl, hafter⟩ := takeNamedClass?_eq_some hfound
  rw [hopened, List.append_assoc, hafter] at h
  cases h

/-! ## Characters and ranges -/

lemma leaves_takeClassItem {verbose : Bool} {e : Escape}
    (h : takeClassItem verbose (c :: r) = some (e, rest)) (he : ∀ a, e ≠ .assertion a) :
    Leaves r rest fun r' rest' => takeClassItem verbose (c :: r') = some (e, rest') := by
  rw [takeClassItem] at h
  split at h
  · rename_i hslash
    cases r with
    | nil => cases h
    | cons d r =>
      refine (leaves_takeEscape h).cons.imp ?_
      rintro _ rest' - - ⟨r', rfl, -, hsame⟩
      rw [takeClassItem, if_pos hslash]
      exact hsame fun ⟨a, ha⟩ => absurd ha (he a)
  · rename_i hslash
    cases h
    refine .refl fun r' _ => ?_
    rw [takeClassItem, if_neg hslash]

/-- What an item stands for on its own, if it is no place. -/
def Escape.toClass? : Escape → Option ClassSet
  | .literal l => some (.one l)
  | .letter negated kind => some (.letter negated kind)
  | .property negated name => some (.property negated name)
  | .assertion _ => none

lemma headBehindBlank_append (inComment : Bool) (text : List Char) :
    headBehindBlank inComment (text ++ [')']) =
      (headBehindBlank inComment text).or (some ')') := by
  induction text generalizing inComment with
  | nil => rfl
  | cons c rest ih =>
    rw [List.cons_append, headBehindBlank, headBehindBlank]
    split
    · exact ih _
    · split
      · exact ih _
      · rfl

lemma headBehindBlank_cons (hblank : Text.isBlank c = false) (hmark : c ≠ '#') (rest : List Char) :
    headBehindBlank false (c :: rest) = some c := by
  rw [headBehindBlank, if_neg (by simp [hblank]), if_neg (by simp [hmark])]

/-- The closing parenthesis does not change whether a certain other character comes next. -/
lemma peek_append {verbose : Bool} (hparen : c ≠ ')') (hblank : Text.isBlank c = false)
    (hmark : c ≠ '#') (text : List Char) :
    peek verbose (text ++ [')']) = some c ↔ peek verbose text = some c := by
  have hor (found : Option Char) : found.or (some ')') = some c ↔ found = some c := by
    cases found with
    | none => simp [Ne.symm hparen]
    | some d => rfl
  cases verbose with
  | false =>
    show (text ++ [')']).head? = some c ↔ text.head? = some c
    rw [List.head?_append]
    exact hor _
  | true =>
    rw [peek, peek, if_pos rfl, if_pos rfl, headBehindBlank_append]
    cases hhead : headBehindBlank false text with
    | some d => rfl
    | none =>
      -- Nothing but white space is there, so the character is not the first one either.
      constructor
      · rintro ⟨⟩
        exact absurd rfl hparen
      · intro hfirst
        obtain ⟨rest, rfl⟩ := List.head?_eq_some_iff.mp hfirst
        rw [headBehindBlank_cons hblank hmark] at hhead
        cases hhead

/-- Does a hyphen before this text stand for itself? -/
def EndsRange (verbose : Bool) (text : List Char) : Prop :=
  peek verbose text = some ']' ∨ peek verbose text = some '-'

lemma endsRange_append {verbose : Bool} (text : List Char) :
    EndsRange verbose (text ++ [')']) ↔ EndsRange verbose text := by
  rw [EndsRange, peek_append (by decide) (by decide) (by decide),
    peek_append (by decide) (by decide) (by decide), EndsRange]

section Ranges

variable {verbose : Bool} {item : Escape} {left after : List Char} {part : ClassSet}

lemma takeClassRange_none (hitem : takeClassItem verbose text = none) :
    takeClassRange verbose text = none := by
  rw [takeClassRange, hitem]

lemma takeClassRange_nil (hitem : takeClassItem verbose text = some (item, left))
    (hskip : skip verbose left = []) : takeClassRange verbose text = none := by
  rw [takeClassRange, hitem]
  dsimp only
  rw [hskip]

lemma takeClassRange_single (hitem : takeClassItem verbose text = some (item, left))
    (hskip : skip verbose left = c :: r) (hsingle : c = '-' → EndsRange verbose r) :
    takeClassRange verbose text = item.toClass?.map (·, c :: r) := by
  rw [takeClassRange, hitem]
  dsimp only
  split
  · rename_i hnil
    cases hskip.symm.trans hnil
  · rename_i r' hhyphen
    obtain ⟨rfl, rfl⟩ := List.cons.inj (hskip.symm.trans hhyphen)
    have hends := hsingle rfl
    rw [EndsRange] at hends
    rw [if_pos hends]
    cases item <;> rfl
  · rw [hskip]
    cases item <;> rfl

lemma takeClassRange_range (hitem : takeClassItem verbose text = some (item, left))
    (hskip : skip verbose left = '-' :: after) (hrange : ¬ EndsRange verbose after) :
    takeClassRange verbose text = some (part, rest) ↔
      ∃ low high, item = .literal low ∧
        takeClassItem verbose (skip verbose after) = some (.literal high, rest) ∧
          low.char ≤ high.char ∧ part = .range low high := by
  rw [takeClassRange, hitem]
  dsimp only
  split
  · rename_i hnil
    cases hskip.symm.trans hnil
  · rename_i r' hhyphen
    obtain rfl := (List.cons.inj (hskip.symm.trans hhyphen)).2
    rw [EndsRange] at hrange
    rw [if_neg hrange]
    split
    · rename_i high left' low hhigh
      split
      · rename_i hle
        constructor
        · rintro ⟨⟩
          exact ⟨low, high, rfl, hhigh, hle, rfl⟩
        · rintro ⟨low', high', hlow, hhigh', -, rfl⟩
          cases hlow
          cases hhigh.symm.trans hhigh'
          rfl
      · rename_i hle
        constructor
        · rintro ⟨⟩
        · rintro ⟨low', high', hlow, hhigh', hle', -⟩
          cases hlow
          cases hhigh.symm.trans hhigh'
          exact absurd hle' hle
    · rename_i hnone
      constructor
      · rintro ⟨⟩
      · rintro ⟨low, high, hlow, hhigh, -, -⟩
        exact (hnone high rest low hhigh hlow).elim
  · rename_i hnone
    exact absurd hskip (hnone after)

lemma leaves_takeClassRange (h : takeClassRange verbose (c :: r) = some (part, rest)) :
    Leaves r rest fun r' rest' => takeClassRange verbose (c :: r') = some (part, rest') := by
  cases hitem : takeClassItem verbose (c :: r) with
  | none =>
    rw [takeClassRange_none hitem] at h
    cases h
  | some found =>
    obtain ⟨item, left⟩ := found
    cases hskip : skip verbose left with
    | nil =>
      rw [takeClassRange_nil hitem hskip] at h
      cases h
    | cons d after =>
      by_cases hsingle : d = '-' → EndsRange verbose after
      · rw [takeClassRange_single hitem hskip hsingle] at h
        obtain ⟨part', hpart, heq⟩ := Option.map_eq_some_iff.mp h
        obtain ⟨rfl, rfl⟩ := Prod.mk.inj heq
        have hitem' : ∀ a, item ≠ .assertion a := by
          rintro a rfl
          cases hpart
        have hleft := leaves_skip verbose left
        rw [hskip] at hleft
        refine ((leaves_takeClassItem hitem hitem').trans hleft).imp ?_
        rintro r' rest' hrest - ⟨left', -, -, -, hsame, hskip'⟩
        obtain ⟨after', rfl, hafter⟩ := hrest.cons
        have hsingle' : d = '-' → EndsRange verbose after' := by
          intro hd
          rw [← endsRange_append, ← hafter]
          exact hsingle hd
        rw [takeClassRange_single hsame hskip' hsingle', hpart]
        rfl
      · obtain ⟨rfl, hrange⟩ := Classical.not_imp.mp hsingle
        obtain ⟨low, high, rfl, hhigh, hle, rfl⟩ := (takeClassRange_range hitem hskip hrange).mp h
        cases hnext : skip verbose after with
        | nil =>
          rw [hnext] at hhigh
          cases hhigh
        | cons e r₂ =>
          rw [hnext] at hhigh
          have hread := ((leaves_takeClassItem hhigh nofun).behind hnext).opened.cons (c := '-')
          rw [← hskip] at hread
          refine ((leaves_takeClassItem hitem nofun).trans hread.afterSkip).imp ?_
          rintro r' rest' - -
            ⟨left', -, -, -, hlow', after', hskip', -, hopened, r₂', hnext', -, -, hhigh'⟩
          have hrange' : ¬ EndsRange verbose after' := by
            rw [← endsRange_append, ← hopened.eq]
            exact hrange
          refine (takeClassRange_range hlow' hskip' hrange').mpr ⟨low, high, rfl, ?_, hle, rfl⟩
          rw [hnext', hhigh']

end Ranges

/-! ## The opening of brackets -/

lemma takeHyphens_cons {verbose : Bool} (n : Nat) (r : List Char) :
    takeHyphens verbose (n + 1) ('-' :: r) =
      (.one ⟨'-', false⟩ :: (takeHyphens verbose n (skip verbose r)).1,
        (takeHyphens verbose n (skip verbose r)).2) :=
  rfl

lemma takeHyphens_other {verbose : Bool} (n : Nat) (h : ∀ r, text ≠ '-' :: r) :
    takeHyphens verbose n text = ([], text) := by
  cases n with
  | zero => rfl
  | succ n =>
    rw [takeHyphens]
    exact h

lemma leaves_takeHyphens {verbose : Bool} {n : Nat} {hyphens : List ClassSet}
    (h : takeHyphens verbose n text = (hyphens, rest)) (hn : text.length ≤ n) :
    Leaves text rest fun text' rest' =>
      ∀ m, text'.length ≤ m → takeHyphens verbose m text' = (hyphens, rest') := by
  induction n generalizing text hyphens with
  | zero =>
    obtain rfl := List.length_eq_zero_iff.mp (Nat.le_zero.mp hn)
    cases h
    exact .all
  | succ n ih =>
    by_cases hhyphen : ∃ r, text = '-' :: r
    · obtain ⟨r, rfl⟩ := hhyphen
      rw [List.length_cons] at hn
      have hshort := (skip_isSuffix verbose r).length_le
      rw [takeHyphens_cons] at h
      obtain ⟨rfl, hrest⟩ := Prod.mk.inj h
      refine (ih (Prod.ext rfl hrest) (by omega)).afterSkip.cons.imp ?_
      rintro _ _ - - ⟨r', rfl, -, hsame⟩ m hm
      obtain ⟨m, rfl, hm⟩ := exists_budget hm
      have hshort' := (skip_isSuffix verbose r').length_le
      rw [takeHyphens_cons, hsame m (by omega)]
    · have hother : ∀ r, text ≠ '-' :: r := fun r heq => hhyphen ⟨r, heq⟩
      rw [takeHyphens_other _ hother] at h
      cases h
      refine .refl fun text' htext m _ => takeHyphens_other m fun r heq => ?_
      subst heq
      exact hother _ htext.eq

lemma takeClassEdge_bracket {verbose : Bool}
    (h : takeHyphens verbose text.length text = ([], ']' :: r)) :
    takeClassEdge verbose text = ([.one ⟨']', false⟩], skip verbose r) := by
  rw [takeClassEdge, h]
  rfl

lemma takeClassEdge_hyphens {verbose : Bool} {hyphens : List ClassSet}
    (h : takeHyphens verbose text.length text = (hyphens, rest))
    (hother : ∀ r, hyphens = [] → rest ≠ ']' :: r) :
    takeClassEdge verbose text = (hyphens, rest) := by
  rw [takeClassEdge, h]
  split
  · rename_i r heq
    obtain ⟨rfl, rfl⟩ := Prod.mk.inj heq
    exact absurd rfl (hother r rfl)
  · rename_i heq
    exact heq.symm

lemma leaves_takeClassEdge {verbose : Bool} {start : List ClassSet}
    (h : takeClassEdge verbose text = (start, rest)) :
    Leaves text rest fun text' rest' => takeClassEdge verbose text' = (start, rest') := by
  obtain ⟨⟨hyphens, left⟩, hhyphens⟩ : ∃ found, takeHyphens verbose text.length text = found :=
    ⟨_, rfl⟩
  have hread := leaves_takeHyphens hhyphens (Nat.le_refl _)
  by_cases hbracket : hyphens = [] ∧ ∃ r, left = ']' :: r
  · obtain ⟨rfl, r, rfl⟩ := hbracket
    rw [takeClassEdge_bracket hhyphens] at h
    obtain ⟨rfl, rfl⟩ := Prod.mk.inj h
    refine (hread.trans (leaves_skip verbose r).cons).imp ?_
    rintro text' rest' - - ⟨left', -, -, -, hhyphens', r', rfl, -, rfl⟩
    exact takeClassEdge_bracket (hhyphens' _ (Nat.le_refl _))
  · have hother : ∀ r, hyphens = [] → left ≠ ']' :: r := fun r hnone heq => hbracket ⟨hnone, r, heq⟩
    rw [takeClassEdge_hyphens hhyphens hother] at h
    obtain ⟨rfl, rfl⟩ := Prod.mk.inj h
    refine hread.imp ?_
    rintro text' rest' hrest - hhyphens'
    refine takeClassEdge_hyphens (hhyphens' _ (Nat.le_refl _)) fun r hnone heq => ?_
    subst heq
    exact hother _ hnone hrest.eq

lemma takeClassStart_negated {verbose : Bool} (h : skip verbose text = '^' :: r) :
    takeClassStart verbose text = (true, takeClassEdge verbose (skip verbose r)) := by
  rw [takeClassStart, h]
  rfl

lemma takeClassStart_plain {verbose : Bool} (h : ∀ r, skip verbose text ≠ '^' :: r) :
    takeClassStart verbose text = (false, takeClassEdge verbose (skip verbose text)) := by
  rw [takeClassStart]
  split
  · rename_i r hmark
    exact absurd hmark (h r)
  · rfl

lemma leaves_takeClassStart {verbose negated : Bool} {start : List ClassSet}
    (h : takeClassStart verbose text = (negated, start, rest)) :
    Leaves text rest fun text' rest' =>
      takeClassStart verbose text' = (negated, start, rest') := by
  by_cases hmark : ∃ r, skip verbose text = '^' :: r
  · obtain ⟨r, hskip⟩ := hmark
    rw [takeClassStart_negated hskip] at h
    obtain ⟨rfl, hedge⟩ := Prod.mk.inj h
    refine ((leaves_takeClassEdge hedge).afterSkip.behind hskip).imp ?_
    rintro text' rest' - - ⟨r', hskip', -, -, hsame⟩
    rw [takeClassStart_negated hskip', hsame]
  · have hplain : ∀ r, skip verbose text ≠ '^' :: r := fun r heq => hmark ⟨r, heq⟩
    rw [takeClassStart_plain hplain] at h
    obtain ⟨rfl, hedge⟩ := Prod.mk.inj h
    refine (leaves_takeClassEdge hedge).opened.afterSkip.imp ?_
    rintro text' rest' - - ⟨hopened, hsame⟩
    rw [takeClassStart_plain, hsame]
    intro r heq
    rw [heq] at hopened
    exact hplain _ hopened.eq

/-! ## The inside of brackets -/

lemma takeClassOp?_eq_some {kind : ClassOp} (h : takeClassOp? text = some (kind, rest)) :
    ∃ d, text = d :: d :: rest ∧ ∀ after, takeClassOp? (d :: d :: after) = some (kind, after) := by
  rw [takeClassOp?.eq_def] at h
  split at h
  · cases h
    exact ⟨'&', rfl, fun after => rfl⟩
  · cases h
    exact ⟨'-', rfl, fun after => rfl⟩
  · cases h
    exact ⟨'~', rfl, fun after => rfl⟩
  · cases h

lemma takeClassOp?_opened (hopened : text = text' ++ [')']) (h : takeClassOp? text = none) :
    takeClassOp? text' = none := by
  by_contra hsome
  obtain ⟨⟨kind, rest⟩, hfound⟩ := Option.ne_none_iff_exists'.mp hsome
  obtain ⟨d, rfl, hafter⟩ := takeClassOp?_eq_some hfound
  have hmore := hafter (rest ++ [')'])
  rw [hopened, List.cons_append, List.cons_append, hmore] at h
  cases h

section ClassBody

variable {verbose : Bool} {n : Nat} {pending : Option (ClassOp × ClassSet)} {parts : List ClassSet}
  {left : List Char}

lemma takeClassBody_nil (h : skip verbose text = []) :
    takeClassBody verbose (n + 1) pending parts text = none := by
  rw [takeClassBody, h]

lemma takeClassBody_close (h : skip verbose text = ']' :: r) :
    takeClassBody verbose (n + 1) pending parts text = some (joinOp pending parts, r) := by
  rw [takeClassBody, h]
  dsimp only
  rw [if_pos rfl]

lemma takeClassBody_named {named : ClassSet} (h : skip verbose text = '[' :: r)
    (hnamed : takeNamedClass? r = some (named, left)) :
    takeClassBody verbose (n + 1) pending parts text =
      takeClassBody verbose n pending (named :: parts) left := by
  rw [takeClassBody, h]
  dsimp only
  rw [if_neg (by decide), if_pos rfl, hnamed]

lemma takeClassBody_nested {negated : Bool} {start : List ClassSet}
    (h : skip verbose text = '[' :: r) (hnamed : takeNamedClass? r = none)
    (hstart : takeClassStart verbose r = (negated, start, left)) :
    takeClassBody verbose (n + 1) pending parts text =
      (takeClassBody verbose n none start.reverse left).bind fun found =>
        takeClassBody verbose n pending (.bracketed negated found.1 :: parts) found.2 := by
  rw [takeClassBody, h]
  dsimp only
  rw [if_neg (by decide), if_pos rfl, hnamed, hstart]
  dsimp only
  cases takeClassBody verbose n none start.reverse left <;> rfl

lemma takeClassBody_op {kind : ClassOp} (h : skip verbose text = c :: r) (hclose : c ≠ ']')
    (hopen : c ≠ '[') (hop : takeClassOp? (c :: r) = some (kind, left)) :
    takeClassBody verbose (n + 1) pending parts text =
      takeClassBody verbose n (some (kind, joinOp pending parts)) [] left := by
  rw [takeClassBody, h]
  dsimp only
  rw [if_neg hclose, if_neg hopen, hop]

lemma takeClassBody_range (h : skip verbose text = c :: r) (hclose : c ≠ ']')
    (hopen : c ≠ '[') (hop : takeClassOp? (c :: r) = none) :
    takeClassBody verbose (n + 1) pending parts text =
      (takeClassRange verbose (c :: r)).bind fun found =>
        takeClassBody verbose n pending (found.1 :: parts) found.2 := by
  rw [takeClassBody, h]
  dsimp only
  rw [if_neg hclose, if_neg hopen, hop]
  dsimp only
  cases takeClassRange verbose (c :: r) <;> rfl

/-- Inside of brackets the same is read, up to the closing one. -/
lemma leaves_takeClassBody {set : ClassSet}
    (h : takeClassBody verbose n pending parts text = some (set, rest)) :
    Leaves text rest fun text' rest' =>
      ∀ m, text'.length < m → takeClassBody verbose m pending parts text' = some (set, rest') := by
  induction n generalizing pending parts text set rest with
  | zero => cases h
  | succ n ih =>
    cases hskip : skip verbose text with
    | nil =>
      rw [takeClassBody_nil hskip] at h
      cases h
    | cons c r =>
      by_cases hclose : c = ']'
      · subst hclose
        rw [takeClassBody_close hskip] at h
        cases h
        refine (Leaves.nothing.behind hskip).imp ?_
        rintro text' rest' - - ⟨r', hskip', -, -, rfl⟩ m hm
        obtain ⟨m, rfl⟩ := Nat.exists_eq_add_one_of_ne_zero (Nat.ne_zero_of_lt hm)
        exact takeClassBody_close hskip'
      by_cases hopen : c = '['
      · subst hopen
        cases hnamed : takeNamedClass? r with
        | some found =>
          obtain ⟨named, left⟩ := found
          rw [takeClassBody_named hskip hnamed] at h
          refine (((leaves_takeNamedClass? hnamed).trans (ih h)).behind hskip).imp ?_
          rintro text' rest' - -
            ⟨r', hskip', hlength, -, left', -, hsuffix, -, hnamed', hsame⟩ m hm
          obtain ⟨m, rfl⟩ := Nat.exists_eq_add_one_of_ne_zero (Nat.ne_zero_of_lt hm)
          have hshort := hsuffix.length_le
          rw [takeClassBody_named hskip' hnamed']
          exact hsame m (by omega)
        | none =>
          obtain ⟨⟨negated, start, left⟩, hstart⟩ : ∃ found, takeClassStart verbose r = found :=
            ⟨_, rfl⟩
          rw [takeClassBody_nested hskip hnamed hstart, Option.bind_eq_some_iff] at h
          obtain ⟨⟨inner, left₂⟩, hinner, houter⟩ := h
          refine ((((leaves_takeClassStart hstart).trans
            ((ih hinner).trans (ih houter))).opened).behind hskip).imp ?_
          rintro text' rest' - - ⟨r', hskip', hlength, -, hopened, left', -, hsuffix, -, hstart',
            left₂', -, hsuffix₂, -, hinner', houter'⟩ m hm
          obtain ⟨m, rfl⟩ := Nat.exists_eq_add_one_of_ne_zero (Nat.ne_zero_of_lt hm)
          have hshort := hsuffix.length_le
          have hshort₂ := hsuffix₂.length_le
          rw [takeClassBody_nested hskip' (takeNamedClass?_opened hopened.eq hnamed) hstart',
            hinner' m (by omega)]
          exact houter' m (by omega)
      · cases hop : takeClassOp? (c :: r) with
        | some found =>
          obtain ⟨kind, left⟩ := found
          obtain ⟨d, heq, hafter⟩ := takeClassOp?_eq_some hop
          obtain ⟨rfl, rfl⟩ := List.cons.inj heq
          rw [takeClassBody_op hskip hclose hopen hop] at h
          refine ((ih h).cons.behind hskip).imp ?_
          rintro text' rest' - - ⟨_, hskip', hlength, -, left', rfl, -, hsame⟩ m hm
          obtain ⟨m, rfl⟩ := Nat.exists_eq_add_one_of_ne_zero (Nat.ne_zero_of_lt hm)
          rw [List.length_cons] at hlength
          rw [takeClassBody_op hskip' hclose hopen (hafter left')]
          exact hsame m (by omega)
        | none =>
          rw [takeClassBody_range hskip hclose hopen hop, Option.bind_eq_some_iff] at h
          obtain ⟨⟨part, left⟩, hpart, hrest⟩ := h
          refine ((((leaves_takeClassRange hpart).trans (ih hrest)).opened).behind hskip).imp ?_
          rintro text' rest' - -
            ⟨r', hskip', hlength, -, hopened, left', -, hsuffix, -, hpart', hsame⟩ m hm
          obtain ⟨m, rfl⟩ := Nat.exists_eq_add_one_of_ne_zero (Nat.ne_zero_of_lt hm)
          have hshort := hsuffix.length_le
          have hop' : takeClassOp? (c :: r') = none :=
            takeClassOp?_opened (by rw [hopened.eq]; rfl) hop
          rw [takeClassBody_range hskip' hclose hopen hop', hpart']
          exact hsame m (by omega)

end ClassBody

lemma leaves_takeBracketed {verbose : Bool} {w : Written}
    (h : takeBracketed verbose text = some (w, rest)) :
    Leaves text rest fun text' rest' => takeBracketed verbose text' = some (w, rest') := by
  obtain ⟨⟨negated, start, left⟩, hstart⟩ : ∃ found, takeClassStart verbose text = found :=
    ⟨_, rfl⟩
  rw [takeBracketed, hstart] at h
  obtain ⟨⟨set, left₂⟩, hbody, heq⟩ := Option.map_eq_some_iff.mp h
  obtain ⟨rfl, rfl⟩ := Prod.mk.inj heq
  refine ((leaves_takeClassStart hstart).trans (leaves_takeClassBody hbody)).imp ?_
  rintro text' rest' - - ⟨left', -, -, -, hstart', hbody'⟩
  rw [takeBracketed, hstart']
  dsimp only
  rw [hbody' _ (Nat.lt_succ_self _)]
  rfl

end ReplicatedStore.Regex
