import Mathlib.Data.List.Basic
import ReplicatedStore.Proofs.Pattern.Items

/-!
# What the reader of groups leaves

What reading a group can do is said once by `Regex.Reads`, with one rule for each thing that may
come next; the budget of the reader says no more than that (`Regex.reads_iff_takeGroup`).

A group is read up to the closing parenthesis that no inner group takes.  Of an expression with one
more closing parenthesis behind it, therefore, either that parenthesis closes the group or an
earlier one does (`Regex.leaves_of_reads`), and then the expression alone could not have been read.
So the parenthesis closes the group wherever the expression can stand alone
(`Regex.rest_eq_nil_of_parse`).
-/

namespace ReplicatedStore.Regex

/-! ## Steps -/

/-- Does the character start something that is neither a group nor the end of a branch? -/
def StartsItem (c : Char) : Prop :=
  c ≠ ')' ∧ c ≠ '|' ∧ c ≠ '('

/-- The group of which `p` has been read goes on with the text, as the expression with the names of
groups, up to what is left. -/
inductive Reads :
    Bool → Progress → List Char → Written → List (List Char) → List Char → Prop where
  /-- Nothing more comes. -/
  | stop {verbose : Bool} {p : Progress} {text : List Char} (hskip : skip verbose text = []) :
    Reads verbose p text p.written p.names []
  /-- The closing parenthesis of the group comes next. -/
  | close {verbose : Bool} {p : Progress} {text r : List Char}
    (hskip : skip verbose text = ')' :: r) : Reads verbose p text p.written p.names (')' :: r)
  /-- A bar ends the branch. -/
  | bar {verbose : Bool} {p : Progress} {text r rest : List Char} {w : Written}
    {names : List (List Char)} (hskip : skip verbose text = '|' :: r)
    (hmore : Reads verbose ⟨[], Written.ofItems p.items.reverse :: p.branches, p.names⟩ r w names
      rest) : Reads verbose p text w names rest
  /-- Flags come next, which hold from there on. -/
  | flags {verbose : Bool} {p : Progress} {text r left rest : List Char} {changes : FlagChanges}
    {w : Written} {names : List (List Char)} (hskip : skip verbose text = '(' :: r)
    (hopening : takeOpening (skip verbose r) = some (.flags changes, left))
    (hmore : Reads ((changes.setting? .verbose).getD verbose)
      { p with items := .flags changes :: p.items } left w names rest) :
    Reads verbose p text w names rest
  /-- A group comes next, with its closing parenthesis; its name is new. -/
  | group {verbose : Bool} {p : Progress} {text r left left₂ rest : List Char} {isNoted : Bool}
    {name : Option (List Char)} {changes : FlagChanges} {w inner : Written}
    {names names' : List (List Char)} (hskip : skip verbose text = '(' :: r)
    (hopening : takeOpening (skip verbose r) = some (.group isNoted name changes, left))
    (hfree : name.any p.names.contains = false)
    (hinner : Reads ((changes.setting? .verbose).getD verbose) ⟨[], [], name.toList ++ p.names⟩ left
      inner names' (')' :: left₂))
    (hmore : Reads verbose ⟨.group isNoted changes inner :: p.items, p.branches, names'⟩ left₂ w
      names rest) : Reads verbose p text w names rest
  /-- The last item is repeated. -/
  | again {verbose : Bool} {p : Progress} {text r left rest : List Char} {c : Char}
    {items : List Written} {w : Written} {names : List (List Char)}
    (hskip : skip verbose text = c :: r) (hc : StartsItem c)
    (hrepeat : takeRepetition? verbose p.items (c :: r) = some (some (items, left)))
    (hmore : Reads verbose { p with items } left w names rest) : Reads verbose p text w names rest
  /-- An item comes next. -/
  | item {verbose : Bool} {p : Progress} {text r left rest : List Char} {c : Char}
    {item w : Written} {names : List (List Char)} (hskip : skip verbose text = c :: r)
    (hc : StartsItem c) (hrepeat : takeRepetition? verbose p.items (c :: r) = none)
    (hitem : takeItem verbose (c :: r) = some (item, left))
    (hmore : Reads verbose { p with items := item :: p.items } left w names rest) :
    Reads verbose p text w names rest

variable {text rest r left : List Char} {c : Char} {verbose : Bool} {n : Nat} {p : Progress}
  {w inner : Written} {names : List (List Char)} {items : List Written} {isNoted : Bool}
  {name : Option (List Char)} {changes : FlagChanges}

/-! ## The reader and its budget -/

lemma takeGroup_bar (hskip : skip verbose text = '|' :: r) :
    takeGroup verbose (n + 1) p text =
      takeGroup verbose n ⟨[], Written.ofItems p.items.reverse :: p.branches, p.names⟩ r := by
  rw [takeGroup, hskip]
  dsimp only
  rw [if_neg (by decide), if_pos rfl]

lemma takeGroup_unopened (hskip : skip verbose text = '(' :: r)
    (hopening : takeOpening (skip verbose r) = none) :
    takeGroup verbose (n + 1) p text = none := by
  rw [takeGroup, hskip]
  dsimp only
  rw [if_neg (by decide), if_neg (by decide), if_pos rfl, hopening]

lemma takeGroup_flags (hskip : skip verbose text = '(' :: r)
    (hopening : takeOpening (skip verbose r) = some (.flags changes, left)) :
    takeGroup verbose (n + 1) p text =
      takeGroup ((changes.setting? .verbose).getD verbose) n
        { p with items := .flags changes :: p.items } left := by
  rw [takeGroup, hskip]
  dsimp only
  rw [if_neg (by decide), if_neg (by decide), if_pos rfl, hopening]

lemma takeGroup_group (hskip : skip verbose text = '(' :: r)
    (hopening : takeOpening (skip verbose r) = some (.group isNoted name changes, left)) :
    takeGroup verbose (n + 1) p text = some (w, names, rest) ↔
      name.any p.names.contains = false ∧ ∃ inner names' left₂,
        takeGroup ((changes.setting? .verbose).getD verbose) n ⟨[], [], name.toList ++ p.names⟩
          left = some (inner, names', ')' :: left₂) ∧
        takeGroup verbose n ⟨.group isNoted changes inner :: p.items, p.branches, names'⟩ left₂ =
          some (w, names, rest) := by
  rw [takeGroup, hskip]
  dsimp only
  rw [if_neg (by decide), if_neg (by decide), if_pos rfl, hopening]
  dsimp only
  split
  · rename_i htaken
    constructor
    · rintro ⟨⟩
    · rintro ⟨hfree, -⟩
      cases htaken.symm.trans hfree
  · rename_i hfree
    split
    · rename_i inner names' left₂ hinner
      constructor
      · intro houter
        exact ⟨Bool.eq_false_iff.mpr hfree, inner, names', left₂, hinner, houter⟩
      · rintro ⟨-, inner', names₂, left₃, hinner', houter⟩
        cases hinner.symm.trans hinner'
        exact houter
    · rename_i hnone
      constructor
      · rintro ⟨⟩
      · rintro ⟨-, inner', names₂, left₃, hinner', -⟩
        exact (hnone inner' names₂ left₃ hinner').elim

lemma takeGroup_broken (hskip : skip verbose text = c :: r) (hc : StartsItem c)
    (hrepeat : takeRepetition? verbose p.items (c :: r) = some none) :
    takeGroup verbose (n + 1) p text = none := by
  rw [takeGroup, hskip]
  dsimp only
  rw [if_neg hc.1, if_neg hc.2.1, if_neg hc.2.2, hrepeat]

lemma takeGroup_again (hskip : skip verbose text = c :: r) (hc : StartsItem c)
    (hrepeat : takeRepetition? verbose p.items (c :: r) = some (some (items, left))) :
    takeGroup verbose (n + 1) p text = takeGroup verbose n { p with items } left := by
  rw [takeGroup, hskip]
  dsimp only
  rw [if_neg hc.1, if_neg hc.2.1, if_neg hc.2.2, hrepeat]

lemma takeGroup_item (hskip : skip verbose text = c :: r) (hc : StartsItem c)
    (hrepeat : takeRepetition? verbose p.items (c :: r) = none) :
    takeGroup verbose (n + 1) p text =
      (takeItem verbose (c :: r)).bind fun found =>
        takeGroup verbose n { p with items := found.1 :: p.items } found.2 := by
  rw [takeGroup, hskip]
  dsimp only
  rw [if_neg hc.1, if_neg hc.2.1, if_neg hc.2.2, hrepeat]
  dsimp only
  cases takeItem verbose (c :: r) <;> rfl

lemma reads_of_takeGroup (h : takeGroup verbose n p text = some (w, names, rest)) :
    Reads verbose p text w names rest := by
  induction n generalizing verbose p text w names rest with
  | zero => cases h
  | succ n ih =>
    cases hskip : skip verbose text with
    | nil =>
      rw [takeGroup, hskip] at h
      cases h
      exact .stop hskip
    | cons c r =>
      by_cases hclose : c = ')'
      · subst hclose
        rw [takeGroup, hskip] at h
        cases h
        exact .close hskip
      by_cases hbar : c = '|'
      · subst hbar
        rw [takeGroup_bar hskip] at h
        exact .bar hskip (ih h)
      by_cases hopen : c = '('
      · subst hopen
        cases hopening : takeOpening (skip verbose r) with
        | none =>
          rw [takeGroup_unopened hskip hopening] at h
          cases h
        | some found =>
          obtain ⟨opening, left⟩ := found
          cases opening with
          | flags changes =>
            rw [takeGroup_flags hskip hopening] at h
            exact .flags hskip hopening (ih h)
          | group isNoted name changes =>
            obtain ⟨hfree, inner, names', left₂, hinner, houter⟩ :=
              (takeGroup_group hskip hopening).mp h
            exact .group hskip hopening hfree (ih hinner) (ih houter)
      · have hc : StartsItem c := ⟨hclose, hbar, hopen⟩
        cases hrepeat : takeRepetition? verbose p.items (c :: r) with
        | some found =>
          cases found with
          | none =>
            rw [takeGroup_broken hskip hc hrepeat] at h
            cases h
          | some found =>
            obtain ⟨items, left⟩ := found
            rw [takeGroup_again hskip hc hrepeat] at h
            exact .again hskip hc hrepeat (ih h)
        | none =>
          rw [takeGroup_item hskip hc hrepeat, Option.bind_eq_some_iff] at h
          obtain ⟨⟨item, left⟩, hitem, hmore⟩ := h
          exact .item hskip hc hrepeat hitem (ih hmore)

lemma length_lt_of_skip (hskip : skip verbose text = c :: r) : r.length < text.length := by
  have hshort := (skip_isSuffix verbose text).length_le
  rw [hskip, List.length_cons] at hshort
  omega

lemma length_le_of_opening {opening : Opening}
    (h : takeOpening (skip verbose r) = some (opening, left)) : left.length ≤ r.length :=
  ((leaves_takeOpening h).isSuffix.trans (skip_isSuffix verbose r)).length_le

/-- What is left is no longer than what was there. -/
lemma Reads.length_le (h : Reads verbose p text w names rest) : rest.length ≤ text.length := by
  induction h with
  | stop => exact Nat.zero_le _
  | @close _ _ text r hskip =>
    rw [← hskip]
    exact (skip_isSuffix _ text).length_le
  | bar hskip _ ih =>
    have := length_lt_of_skip hskip
    omega
  | flags hskip hopening _ ih =>
    have := length_lt_of_skip hskip
    have := length_le_of_opening hopening
    omega
  | group hskip hopening _ _ _ ihinner ih =>
    have := length_lt_of_skip hskip
    have := length_le_of_opening hopening
    rw [List.length_cons] at ihinner
    omega
  | again hskip _ hrepeat _ ih =>
    have := length_lt_of_skip hskip
    have := (leaves_takeRepetition? hrepeat).isSuffix.length_le
    omega
  | item hskip _ _ hitem _ ih =>
    have := length_lt_of_skip hskip
    have := (leaves_takeItem hitem).isSuffix.length_le
    omega

/-- A budget larger than the text is large enough. -/
lemma takeGroup_of_reads (h : Reads verbose p text w names rest) (hn : text.length < n) :
    takeGroup verbose n p text = some (w, names, rest) := by
  induction h generalizing n with
  | stop hskip =>
    obtain ⟨n, rfl⟩ := Nat.exists_eq_add_one_of_ne_zero (Nat.ne_zero_of_lt hn)
    rw [takeGroup, hskip]
  | close hskip =>
    obtain ⟨n, rfl⟩ := Nat.exists_eq_add_one_of_ne_zero (Nat.ne_zero_of_lt hn)
    rw [takeGroup, hskip]
    exact if_pos rfl
  | bar hskip _ ih =>
    obtain ⟨n, rfl⟩ := Nat.exists_eq_add_one_of_ne_zero (Nat.ne_zero_of_lt hn)
    have hshort := length_lt_of_skip hskip
    rw [takeGroup_bar hskip]
    exact ih (by omega)
  | flags hskip hopening _ ih =>
    obtain ⟨n, rfl⟩ := Nat.exists_eq_add_one_of_ne_zero (Nat.ne_zero_of_lt hn)
    have hshort := length_lt_of_skip hskip
    have hleft := length_le_of_opening hopening
    rw [takeGroup_flags hskip hopening]
    exact ih (by omega)
  | group hskip hopening hfree hinner _ ihinner ih =>
    obtain ⟨n, rfl⟩ := Nat.exists_eq_add_one_of_ne_zero (Nat.ne_zero_of_lt hn)
    have hshort := length_lt_of_skip hskip
    have hleft := length_le_of_opening hopening
    have hleft₂ := hinner.length_le
    rw [List.length_cons] at hleft₂
    exact (takeGroup_group hskip hopening).mpr
      ⟨hfree, _, _, _, ihinner (by omega), ih (by omega)⟩
  | again hskip hc hrepeat _ ih =>
    obtain ⟨n, rfl⟩ := Nat.exists_eq_add_one_of_ne_zero (Nat.ne_zero_of_lt hn)
    have hshort := length_lt_of_skip hskip
    have hleft := (leaves_takeRepetition? hrepeat).isSuffix.length_le
    rw [takeGroup_again hskip hc hrepeat]
    exact ih (by omega)
  | item hskip hc hrepeat hitem _ ih =>
    obtain ⟨n, rfl⟩ := Nat.exists_eq_add_one_of_ne_zero (Nat.ne_zero_of_lt hn)
    have hshort := length_lt_of_skip hskip
    have hleft := (leaves_takeItem hitem).isSuffix.length_le
    rw [takeGroup_item hskip hc hrepeat, hitem]
    exact ih (by omega)

lemma reads_iff_takeGroup (hn : text.length < n) :
    Reads verbose p text w names rest ↔ takeGroup verbose n p text = some (w, names, rest) :=
  ⟨fun h => takeGroup_of_reads h hn, reads_of_takeGroup⟩

lemma reads_of_parse (h : Written.parse text = some w) :
    ∃ names, Reads false ⟨[], [], []⟩ text w names [] := by
  rw [Written.parse] at h
  split at h
  · rename_i written names hgroup
    split at h
    · obtain rfl := Option.some.inj h
      exact ⟨names, reads_of_takeGroup hgroup⟩
    · cases h
  · cases h

/-! ## What is left -/

lemma skip_brace (verbose : Bool) (inside : List Char) :
    skip verbose ('{' :: inside) = '{' :: inside := by
  cases verbose <;> rfl

/-- A group goes on only with what is decided: an opening brace at the end repeats nothing. -/
lemma Reads.decided (h : Reads verbose p text w names rest) : Decided verbose text := by
  rintro inside rfl hinside
  have hbrace := skip_brace verbose inside
  have hbroken : takeRepetition? verbose p.items ('{' :: inside) = some none := by
    rw [takeRepetition?_counted, takeCounts_nil hinside]
    rfl
  cases h with
  | stop hskip => cases hbrace.symm.trans hskip
  | close hskip => cases hbrace.symm.trans hskip
  | bar hskip _ => cases hbrace.symm.trans hskip
  | flags hskip _ _ => cases hbrace.symm.trans hskip
  | group hskip _ _ _ _ => cases hbrace.symm.trans hskip
  | again hskip _ hrepeat _ =>
    cases hbrace.symm.trans hskip
    cases hbroken.symm.trans hrepeat
  | item hskip _ hrepeat _ _ =>
    cases hbrace.symm.trans hskip
    cases hbroken.symm.trans hrepeat

/-- Of a group the same is read, up to what is left. -/
lemma leaves_of_reads (h : Reads verbose p text w names rest) :
    Leaves text rest fun text' rest' => Reads verbose p text' w names rest' := by
  induction h with
  | stop => exact .all
  | @close verbose _ text r hskip =>
    have hread := leaves_skip verbose text
    rw [hskip] at hread
    refine hread.imp ?_
    rintro text' rest' hrest - hskip'
    obtain ⟨r', rfl, -⟩ := hrest.cons
    exact .close hskip'
  | bar hskip _ ih =>
    refine (ih.behind hskip).imp ?_
    rintro text' rest' - - ⟨r', hskip', -, -, hmore'⟩
    exact .bar hskip' hmore'
  | flags hskip hopening _ ih =>
    refine (((leaves_takeOpening hopening).trans ih).afterSkip.behind hskip).imp ?_
    rintro text' rest' - - ⟨r', hskip', -, -, left', -, -, -, hopening', hmore'⟩
    exact .flags hskip' hopening' hmore'
  | group hskip hopening hfree _ _ ihinner ih =>
    refine (((leaves_takeOpening hopening).trans
      (ihinner.trans ih.cons)).afterSkip.behind hskip).imp ?_
    rintro text' rest' - - ⟨r', hskip', -, -, left', -, -, -, hopening', mid', -, -, -, hinner',
      left₂', rfl, -, hmore'⟩
    exact .group hskip' hopening' hfree hinner' hmore'
  | again hskip hc hrepeat _ ih =>
    refine (((leaves_takeRepetition? hrepeat).trans ih).behind hskip).imp ?_
    rintro text' rest' - - ⟨r', hskip', -, -, left', -, -, -, hrepeat', hmore'⟩
    exact .again hskip' hc hrepeat' hmore'
  | item hskip hc hrepeat hitem _ ih =>
    refine (((leaves_takeItem hitem).trans ih).behind hskip).imp ?_
    rintro text' rest' - - ⟨r', hskip', -, -, left', -, -, -, hitem', hmore'⟩
    exact .item hskip' hc (takeRepetition?_cons_none hrepeat r') (hitem' hmore'.decided) hmore'

/-- **A parenthesis behind an expression that can stand alone closes the group that it is put
into**, and none before it does. -/
theorem rest_eq_nil_of_parse (hparse : Written.parse text = some w)
    (hgroup : Reads false ⟨[], [], []⟩ (text ++ [')']) inner names (')' :: rest)) : rest = [] := by
  by_contra hmore
  -- The last parenthesis is the one that was put behind the expression, so one before it is left.
  obtain ⟨earlier, last, rfl⟩ := (List.eq_nil_or_concat' rest).resolve_left hmore
  obtain ⟨used, hused, hsame⟩ := leaves_of_reads hgroup
  rw [← List.cons_append, ← List.append_assoc] at hused
  obtain ⟨rfl, hlast⟩ := List.append_inj' hused rfl
  obtain ⟨rfl⟩ := List.cons.inj hlast
  have hopened : Opened (')' :: (earlier ++ [')'])) (')' :: earlier) := ⟨nofun, rfl⟩
  have halone := takeGroup_of_reads (hsame _ hopened) (Nat.lt_succ_self _)
  rw [Written.parse, halone] at hparse
  cases hparse

end ReplicatedStore.Regex
