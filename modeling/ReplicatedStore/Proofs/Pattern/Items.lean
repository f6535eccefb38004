import ReplicatedStore.Proofs.Pattern.Brackets

/-!
# What the readers of items leave

A group is made of items: what an opening parenthesis starts, what repeats the item before, and
single characters, places and classes.  The reader of an opening looks at three characters and that
of a repetition at one or, for the mark behind it, two; none needs the closing parenthesis that ends
the text, except that an opening brace at its very end would be read in another way
(`Regex.leaves_takeItem`).
-/

namespace ReplicatedStore.Regex

variable {text mid rest text' rest' r left : List Char} {c : Char}
  {same same' : List Char → List Char → Prop}

/-! ## Openings -/

lemma leaves_takeFlags {negating dangling : Bool} {changes found : FlagChanges}
    (h : takeFlags negating dangling changes text = some (found, rest)) :
    Leaves text rest fun text' rest' =>
      takeFlags negating dangling changes text' = some (found, rest') := by
  induction text generalizing negating dangling changes with
  | nil => cases h
  | cons c r ih =>
    rw [takeFlags] at h
    split at h
    · rename_i hend
      split at h
      · cases h
      · rename_i hdangling
        cases h
        refine .refl fun text' htext => ?_
        obtain ⟨r', rfl, -⟩ := htext.cons
        rw [takeFlags, if_pos hend, if_neg hdangling]
    · rename_i hend
      split at h
      · rename_i hhyphen
        split at h
        · cases h
        · rename_i hnegating
          refine (ih h).cons.imp ?_
          rintro _ rest' - - ⟨r', rfl, -, hsame⟩
          rw [takeFlags, if_neg hend, if_pos hhyphen, if_neg hnegating, hsame]
      · rename_i hhyphen
        cases hflag : flagOf? c with
        | none =>
          rw [hflag] at h
          cases h
        | some flag =>
          rw [hflag] at h
          dsimp only at h
          split at h
          · cases h
          · rename_i hnew
            refine (ih h).cons.imp ?_
            rintro _ rest' - - ⟨r', rfl, -, hsame⟩
            rw [takeFlags, if_neg hend, if_neg hhyphen, hflag]
            dsimp only
            rw [if_neg hnew, hsame]

/-- A name stands before its bracket, whatever stands behind that. -/
lemma takeGroupName_eq_some {name : List Char} (h : takeGroupName text = some (name, rest)) :
    text = name ++ '>' :: rest ∧
      ∀ after, takeGroupName (name ++ '>' :: after) = some (name, after) := by
  rw [takeGroupName] at h
  split at h
  · rename_i c others d after htake hdrop
    split at h
    · rename_i hchars
      cases h
      have hbracket : d = '>' := by
        have hfirst := List.head?_dropWhile_not (fun c => decide (c ≠ '>')) text
        rw [hdrop] at hfirst
        simpa using hfirst
      subst hbracket
      refine ⟨?_, fun after => ?_⟩
      · rw [← htake, ← hdrop, List.takeWhile_append_dropWhile]
      · rw [takeGroupName, ← htake, takeWhile_append_mark, dropWhile_append_mark, htake]
        exact if_pos hchars
    · cases h
  · cases h

lemma leaves_takeNamedOpening {opening : Opening}
    (h : takeNamedOpening text = some (opening, rest)) :
    Leaves text rest fun text' rest' => takeNamedOpening text' = some (opening, rest') := by
  obtain ⟨⟨name, left⟩, hname, heq⟩ := Option.map_eq_some_iff.mp h
  obtain ⟨rfl, rfl⟩ := Prod.mk.inj heq
  obtain ⟨rfl, hafter⟩ := takeGroupName_eq_some hname
  refine ⟨name ++ ['>'], by simp, fun rest' _ => ?_⟩
  rw [List.append_assoc]
  exact congrArg (Option.map _) (hafter rest')

/-- What flags open, with the character behind them. -/
def openingOf? (changes : FlagChanges) (c : Char) : Option Opening :=
  if c = ':' then some (.group false none changes)
  else if changes.isEmpty then none
  else some (.flags changes)

lemma takeFlagOpening_eq_some {opening : Opening} :
    takeFlagOpening text = some (opening, rest) ↔
      ∃ changes c, takeFlags false false [] text = some (changes, c :: rest) ∧
        openingOf? changes c = some opening := by
  rw [takeFlagOpening]
  split
  · rename_i hnone
    constructor
    · rintro ⟨⟩
    · rintro ⟨changes, c, hflags, -⟩
      cases hnone.symm.trans hflags
  · rename_i changes' hnil
    constructor
    · rintro ⟨⟩
    · rintro ⟨changes, c, hflags, -⟩
      cases hnil.symm.trans hflags
  · rename_i changes' c' left hfound
    have hopening : ((if c' = ':' then some (Opening.group false none changes', left)
        else if changes'.isEmpty then none else some (.flags changes', left)) =
        (openingOf? changes' c').map (·, left)) := by
      rw [openingOf?]
      split
      · rfl
      · split <;> rfl
    rw [hopening, Option.map_eq_some_iff]
    constructor
    · rintro ⟨opening', hopening', heq⟩
      obtain ⟨rfl, rfl⟩ := Prod.mk.inj heq
      exact ⟨changes', c', hfound, hopening'⟩
    · rintro ⟨changes, c, hflags, hopening'⟩
      cases hfound.symm.trans hflags
      exact ⟨opening, hopening', rfl⟩

lemma leaves_takeFlagOpening {opening : Opening}
    (h : takeFlagOpening text = some (opening, rest)) :
    Leaves text rest fun text' rest' => takeFlagOpening text' = some (opening, rest') := by
  obtain ⟨changes, c, hflags, hopening⟩ := takeFlagOpening_eq_some.mp h
  refine ((leaves_takeFlags hflags).trans (Leaves.nothing.cons (c := c))).imp ?_
  rintro text' rest' - - ⟨_, -, -, -, hflags', _, rfl, -, rfl⟩
  exact takeFlagOpening_eq_some.mpr ⟨changes, c, hflags', hopening⟩

/-- Does a name follow the question mark of an opening? -/
def NamedBehind (text : List Char) : Prop :=
  (∃ r, text = 'P' :: '<' :: r) ∨ ∃ r, text = '<' :: r

lemma NamedBehind.append (h : NamedBehind text) (more : List Char) :
    NamedBehind (text ++ more) := by
  obtain ⟨r, rfl⟩ | ⟨r, rfl⟩ := h
  · exact .inl ⟨r ++ more, rfl⟩
  · exact .inr ⟨r ++ more, rfl⟩

lemma takeOpening_flags (h : ¬ NamedBehind text) :
    takeOpening ('?' :: text) = takeFlagOpening text := by
  rw [takeOpening]
  · exact fun r heq => h (.inl ⟨r, heq⟩)
  · exact fun r heq => h (.inr ⟨r, heq⟩)

lemma takeOpening_plain (h : ∀ r, text ≠ '?' :: r) :
    takeOpening text = some (.group true none [], text) := by
  rw [takeOpening]
  · exact fun r => h _
  · exact fun r => h _
  · exact h

lemma leaves_takeOpening {opening : Opening} (h : takeOpening text = some (opening, rest)) :
    Leaves text rest fun text' rest' => takeOpening text' = some (opening, rest') := by
  by_cases hmark : ∃ tail, text = '?' :: tail
  · obtain ⟨tail, rfl⟩ := hmark
    by_cases hnamed : NamedBehind tail
    · obtain ⟨r, rfl⟩ | ⟨r, rfl⟩ := hnamed
      · have hread : takeNamedOpening r = some (opening, rest) := h
        refine (leaves_takeNamedOpening hread).cons.cons.cons.imp ?_
        rintro _ rest' - - ⟨_, rfl, -, _, rfl, -, r', rfl, -, hsame⟩
        exact hsame
      · have hread : takeNamedOpening r = some (opening, rest) := h
        refine (leaves_takeNamedOpening hread).cons.cons.imp ?_
        rintro _ rest' - - ⟨_, rfl, -, r', rfl, -, hsame⟩
        exact hsame
    · rw [takeOpening_flags hnamed] at h
      refine (leaves_takeFlagOpening h).opened.cons.imp ?_
      rintro _ rest' - - ⟨tail', rfl, -, hopened, hsame⟩
      have hnamed' : ¬ NamedBehind tail' := by
        intro hbehind
        rw [hopened.eq] at hnamed
        exact hnamed (hbehind.append [')'])
      rw [takeOpening_flags hnamed', hsame]
  · have hplain : ∀ r, text ≠ '?' :: r := fun r heq => hmark ⟨r, heq⟩
    rw [takeOpening_plain hplain] at h
    cases h
    refine .refl fun text' htext => takeOpening_plain fun r heq => ?_
    subst heq
    exact hplain _ htext.eq

/-! ## Repetitions -/

lemma skipLazy_plain (h : ∀ r, text ≠ '?' :: r) : skipLazy text = text := by
  rw [skipLazy]
  exact h

lemma leaves_skipLazy (text : List Char) :
    Leaves text (skipLazy text) fun text' rest' => skipLazy text' = rest' := by
  by_cases hmark : ∃ r, text = '?' :: r
  · obtain ⟨r, rfl⟩ := hmark
    have hread : Leaves ('?' :: r) r _ := Leaves.nothing.cons
    refine hread.imp ?_
    rintro _ rest' - - ⟨r', rfl, -, rfl⟩
    rfl
  · have hplain : ∀ r, text ≠ '?' :: r := fun r heq => hmark ⟨r, heq⟩
    rw [skipLazy_plain hplain]
    refine .refl fun text' htext => skipLazy_plain fun r heq => ?_
    subst heq
    exact hplain _ htext.eq

section Counts

variable {verbose : Bool} {least : Nat} {most : Option Nat} {x : Option Nat}

lemma takeMost_close (h : skip verbose text = '}' :: r) :
    takeMost verbose least text = some (none, r) := by
  rw [takeMost]
  split
  · rename_i r' hclose
    rw [(List.cons.inj (h.symm.trans hclose)).2]
  · rename_i hnone
    exact absurd h (hnone r)

lemma takeMost_count (h : ∀ r, skip verbose text ≠ '}' :: r) :
    takeMost verbose least text = some (most, rest) ↔
      ∃ n, takeCount verbose (skip verbose text) = (some n, '}' :: rest) ∧
        (least ≤ n ∧ n ≤ largestCount) ∧ most = some n := by
  rw [takeMost]
  split
  · rename_i r' hclose
    exact absurd hclose (h r')
  · split
    · rename_i n left hcount
      constructor
      · intro hsome
        split at hsome
        · rename_i hbounds
          cases hsome
          exact ⟨n, hcount, hbounds, rfl⟩
        · cases hsome
      · rintro ⟨n', hcount', hbounds, rfl⟩
        cases hcount.symm.trans hcount'
        exact if_pos hbounds
    · rename_i hnone
      constructor
      · rintro ⟨⟩
      · rintro ⟨n, hcount, -, -⟩
        exact (hnone n rest hcount).elim

lemma leaves_takeMost (h : takeMost verbose least text = some (most, rest)) :
    Leaves text rest fun text' rest' => takeMost verbose least text' = some (most, rest') := by
  by_cases hclose : ∃ r, skip verbose text = '}' :: r
  · obtain ⟨r, hskip⟩ := hclose
    rw [takeMost_close hskip] at h
    cases h
    refine (Leaves.nothing.behind hskip).imp ?_
    rintro text' rest' - - ⟨r', hskip', -, -, rfl⟩
    exact takeMost_close hskip'
  · have hcounted : ∀ r, skip verbose text ≠ '}' :: r := fun r heq => hclose ⟨r, heq⟩
    obtain ⟨n, hcount, hbounds, rfl⟩ := (takeMost_count hcounted).mp h
    refine (((leaves_takeCount hcount).trans
      (Leaves.nothing.cons (c := '}'))).opened).afterSkip.imp ?_
    rintro text' rest' - - ⟨hopened, _, -, -, -, hcount', _, rfl, -, rfl⟩
    have hcounted' : ∀ r, skip verbose text' ≠ '}' :: r := by
      intro r heq
      rw [heq] at hopened
      exact hcounted _ hopened.eq
    exact (takeMost_count hcounted').mpr ⟨n, hcount', hbounds, rfl⟩

lemma takeCounts_nil (h : skip verbose text = []) : takeCounts verbose text = none := by
  rw [takeCounts, h]

lemma takeCounts_exact (hsome : skip verbose text ≠ [])
    (hcount : takeCount verbose (skip verbose text) = (some least, '}' :: left)) :
    takeCounts verbose text =
      if least ≤ largestCount then some ((least, some least), skipLazy (skip verbose left))
      else none := by
  rw [takeCounts]
  split
  · rename_i hnil
    exact absurd hnil hsome
  · rw [hcount]
    rfl

lemma takeCounts_bounds (hsome : skip verbose text ≠ [])
    (hcount : takeCount verbose (skip verbose text) = (some least, ',' :: left)) :
    takeCounts verbose text =
      if largestCount < least then none
      else (takeMost verbose least left).map fun found =>
        ((least, found.1), skipLazy (skip verbose found.2)) := by
  rw [takeCounts]
  split
  · rename_i hnil
    exact absurd hnil hsome
  · rw [hcount]
    rfl

lemma takeCounts_broken (hcount : takeCount verbose (skip verbose text) = (x, left))
    (hexact : ∀ n r, x = some n → left ≠ '}' :: r) (hbounds : ∀ n r, x = some n → left ≠ ',' :: r) :
    takeCounts verbose text = none := by
  rw [takeCounts]
  split
  · rfl
  · rw [hcount]
    split
    · rename_i n r heq
      obtain ⟨rfl, rfl⟩ := Prod.mk.inj heq
      exact absurd rfl (hexact n r rfl)
    · rename_i n r heq
      obtain ⟨rfl, rfl⟩ := Prod.mk.inj heq
      exact absurd rfl (hbounds n r rfl)
    · rfl

lemma leaves_takeCounts {counts : Nat × Option Nat}
    (h : takeCounts verbose text = some (counts, rest)) :
    Leaves text rest fun text' rest' => takeCounts verbose text' = some (counts, rest') := by
  have hsome : skip verbose text ≠ [] := by
    intro hnil
    rw [takeCounts_nil hnil] at h
    cases h
  obtain ⟨⟨x, left⟩, hcount⟩ : ∃ found, takeCount verbose (skip verbose text) = found := ⟨_, rfl⟩
  by_cases hexact : ∃ n r, x = some n ∧ left = '}' :: r
  · obtain ⟨n, r, rfl, rfl⟩ := hexact
    rw [takeCounts_exact hsome hcount] at h
    split at h
    · rename_i hle
      cases h
      refine ((leaves_takeCount hcount).trans
        ((leaves_skip verbose r).trans (leaves_skipLazy _)).cons).opened.afterSkip.imp ?_
      rintro text' rest' - - ⟨hopened, _, -, -, -, hcount', r', rfl, -, _, -, -, -, hskip, hlazy⟩
      rw [takeCounts_exact hopened.some hcount', if_pos hle, hskip, hlazy]
    · cases h
  by_cases hbounds : ∃ n r, x = some n ∧ left = ',' :: r
  · obtain ⟨n, r, rfl, rfl⟩ := hbounds
    rw [takeCounts_bounds hsome hcount] at h
    split at h
    · cases h
    · rename_i hle
      obtain ⟨⟨most, left₂⟩, hmost, heq⟩ := Option.map_eq_some_iff.mp h
      obtain ⟨rfl, rfl⟩ := Prod.mk.inj heq
      refine ((leaves_takeCount hcount).trans ((leaves_takeMost hmost).trans
        ((leaves_skip verbose left₂).trans (leaves_skipLazy _))).cons).opened.afterSkip.imp ?_
      rintro text' rest' - - ⟨hopened, _, -, -, -, hcount', r', rfl, -, left₂', -, -, -, hmost',
        _, -, -, -, hskip, hlazy⟩
      rw [takeCounts_bounds hopened.some hcount', if_neg hle, hmost', Option.map_some, hskip, hlazy]
  · rw [takeCounts_broken hcount (fun n r hx hleft => hexact ⟨n, r, hx, hleft⟩)
      fun n r hx hleft => hbounds ⟨n, r, hx, hleft⟩] at h
    cases h

end Counts

section Repetitions

variable {verbose : Bool} {items items' : List Written}

/-- The counts of a repetition that is written with one character. -/
def shortCounts? (c : Char) : Option (Nat × Option Nat) :=
  if c = '?' then some (0, some 1)
  else if c = '*' then some (0, none)
  else if c = '+' then some (1, none)
  else none

lemma takeRepetition?_short {counts : Nat × Option Nat} (h : shortCounts? c = some counts)
    (r : List Char) :
    takeRepetition? verbose items (c :: r) =
      some ((repeatLast counts items).map (·, skipLazy r)) := by
  rw [shortCounts?] at h
  split at h
  · rename_i hc
    cases h
    subst hc
    rfl
  · split at h
    · rename_i hc
      cases h
      subst hc
      rfl
    · split at h
      · rename_i hc
        cases h
        subst hc
        rfl
      · cases h

lemma takeRepetition?_counted (r : List Char) :
    takeRepetition? verbose items ('{' :: r) =
      some ((takeCounts verbose r).bind fun found =>
        (repeatLast found.1 items).map (·, found.2)) :=
  rfl

/-- Whether a repetition starts depends on one character. -/
lemma takeRepetition?_none (h : shortCounts? c = none) (hbrace : c ≠ '{') (r : List Char) :
    takeRepetition? verbose items (c :: r) = none := by
  rw [takeRepetition?]
  all_goals
    intro rest heq
    obtain ⟨rfl, -⟩ := List.cons.inj heq
  · cases h
  · cases h
  · cases h
  · exact hbrace rfl

/-- A repetition repeats the last item, so often as one character or counts in braces say. -/
lemma takeRepetition?_eq_some :
    takeRepetition? verbose items (c :: r) = some (some (items', rest)) ↔
      (∃ counts, shortCounts? c = some counts ∧ repeatLast counts items = some items' ∧
        skipLazy r = rest) ∨
      (c = '{' ∧ ∃ counts, takeCounts verbose r = some (counts, rest) ∧
        repeatLast counts items = some items') := by
  cases hshort : shortCounts? c with
  | some counts =>
    have hbrace : c ≠ '{' := by
      rintro rfl
      cases hshort
    rw [takeRepetition?_short hshort]
    simp [hbrace]
  | none =>
    by_cases hbrace : c = '{'
    · subst hbrace
      rw [takeRepetition?_counted]
      simp only [Option.some.injEq, Option.bind_eq_some_iff, Option.map_eq_some_iff, reduceCtorEq,
        false_and, exists_false, false_or, true_and]
      constructor
      · rintro ⟨⟨counts, left⟩, hcounts, found, hrepeat, heq⟩
        obtain ⟨rfl, rfl⟩ := Prod.mk.inj heq
        exact ⟨counts, hcounts, hrepeat⟩
      · rintro ⟨counts, hcounts, hrepeat⟩
        exact ⟨(counts, rest), hcounts, items', hrepeat, rfl⟩
    · rw [takeRepetition?_none hshort hbrace]
      simp [hbrace]

lemma leaves_takeRepetition?
    (h : takeRepetition? verbose items (c :: r) = some (some (items', rest))) :
    Leaves r rest fun r' rest' =>
      takeRepetition? verbose items (c :: r') = some (some (items', rest')) := by
  obtain ⟨counts, hshort, hrepeat, rfl⟩ | ⟨hbrace, counts, hcounts, hrepeat⟩ :=
    takeRepetition?_eq_some.mp h
  · refine (leaves_skipLazy r).imp ?_
    rintro r' rest' - - hlazy
    exact takeRepetition?_eq_some.mpr (.inl ⟨counts, hshort, hrepeat, hlazy⟩)
  · refine (leaves_takeCounts hcounts).imp ?_
    rintro r' rest' - - hcounts'
    exact takeRepetition?_eq_some.mpr (.inr ⟨hbrace, counts, hcounts', hrepeat⟩)

/-- Where no repetition starts, none starts before another rest either. -/
lemma takeRepetition?_cons_none (h : takeRepetition? verbose items (c :: r) = none)
    (r' : List Char) : takeRepetition? verbose items (c :: r') = none := by
  cases hshort : shortCounts? c with
  | some counts =>
    rw [takeRepetition?_short hshort] at h
    cases h
  | none =>
    by_cases hbrace : c = '{'
    · subst hbrace
      rw [takeRepetition?_counted] at h
      cases h
    · exact takeRepetition?_none hshort hbrace r'

end Repetitions

/-! ## Items -/

/-- What an escape stands for outside of brackets. -/
def Escape.toWritten : Escape → Written
  | .literal l => .literal l
  | .assertion a => .assertion a
  | .letter negated kind => .letter negated kind
  | .property negated name => .property negated name

lemma takeItem_escape {verbose : Bool} (r : List Char) :
    takeItem verbose ('\\' :: r) =
      (takeEscape verbose r).map fun found => (found.1.toWritten, found.2) := by
  show (takeEscape verbose r).map _ = _
  cases takeEscape verbose r with
  | none => rfl
  | some found =>
    obtain ⟨e, left⟩ := found
    cases e <;> rfl

/-- Any other character but an opening bracket is an item of its own. -/
lemma takeItem_other {verbose : Bool} (hopen : c ≠ '[') (hslash : c ≠ '\\') :
    ∃ w, ∀ r, takeItem verbose (c :: r) = some (w, r) := by
  simp only [takeItem, if_neg hopen, if_neg hslash]
  split
  · exact ⟨_, fun r => rfl⟩
  · split
    · exact ⟨_, fun r => rfl⟩
    · split
      · exact ⟨_, fun r => rfl⟩
      · exact ⟨_, fun r => rfl⟩

lemma leaves_takeItem {verbose : Bool} {w : Written}
    (h : takeItem verbose (c :: r) = some (w, rest)) :
    Leaves r rest fun r' rest' =>
      Decided verbose rest' → takeItem verbose (c :: r') = some (w, rest') := by
  by_cases hopen : c = '['
  · subst hopen
    have hread : takeBracketed verbose r = some (w, rest) := h
    refine (leaves_takeBracketed hread).imp ?_
    rintro r' rest' - - hsame -
    exact hsame
  by_cases hslash : c = '\\'
  · subst hslash
    rw [takeItem_escape] at h
    obtain ⟨⟨e, left⟩, hescape, heq⟩ := Option.map_eq_some_iff.mp h
    obtain ⟨rfl, rfl⟩ := Prod.mk.inj heq
    cases r with
    | nil => cases hescape
    | cons d r =>
      refine (leaves_takeEscape hescape).cons.imp ?_
      rintro _ rest' - - ⟨r', rfl, -, hsame⟩ hdecided
      rw [takeItem_escape, hsame fun _ => hdecided]
      rfl
  · obtain ⟨w', hother⟩ := @takeItem_other c verbose hopen hslash
    rw [hother] at h
    cases h
    exact .refl fun r' _ _ => hother r'

end ReplicatedStore.Regex
