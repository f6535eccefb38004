import ReplicatedStore.Proofs.Pattern.Groups
import ReplicatedStore.Proofs.Pattern.Matching
import ReplicatedStore.Store.Patterns

/-!
# Anchored expressions

A pattern is written into the group of an expression that begins at the start of the text.  Where
the pattern closes that group and a bar follows, the branches behind the bar are not in the group,
and nothing binds them to the start: of a listed name, then, a match begins at the first character,
or one of those branches matches it anywhere.  There are no such branches where the pattern can
stand alone as an expression (`Store.keysMatching_begins`).
-/

namespace ReplicatedStore

namespace Regex

variable {text rest : List Char} {verbose : Bool} {p : Progress} {w : Written}
  {names : List (List Char)} {r : Regex} {others : List Regex} {start : Nat}

/-! ## Expressions that begin at the start of the text -/

/-- The expression asks for the start of the text before anything else. -/
inductive IsAnchored : Regex → Prop where
  /-- It asks for nothing else. -/
  | look : IsAnchored (.look .textStart)
  /-- More follows. -/
  | seq (rest : List Regex) : IsAnchored (.seq (.look .textStart :: rest))

lemma textStart_eq_nil (text : List Char) (h : start ≠ 0) :
    reach text (.look .textStart) [start] = [] :=
  List.filter_cons_of_neg (by simpa [Look.holds] using h)

/-- A match of it begins at the start. -/
lemma IsAnchored.eq_zero (h : r.IsAnchored) (hbegins : r.Begins text start) : start = 0 := by
  by_contra hstart
  have hnone := textStart_eq_nil text hstart
  cases h with
  | look => exact hbegins hnone
  | seq rest =>
    have hseq : reach text (.seq (.look .textStart :: rest)) [start] =
        reachThrough text rest (reach text (.look .textStart) [start]) := rfl
    rw [Begins, hseq, hnone, (reachThrough_isPointwise text rest).nil] at hbegins
    exact hbegins rfl

lemma isAnchored_sequence (rest : List Regex) :
    (sequence (.look .textStart :: rest)).IsAnchored := by
  have hitems : ((Regex.look .textStart :: rest).flatMap items).foldr consItem [] =
      .look .textStart :: (rest.flatMap items).foldr consItem [] := rfl
  rw [sequence, hitems]
  cases (rest.flatMap items).foldr consItem [] with
  | nil => exact .look
  | cons item more => exact .seq _

/-! ## Choices -/

lemma IsAnchored.branches (h : r.IsAnchored) : r.branches = [r] := by
  cases h <;> rfl

lemma commonItems_isPrefix (first second : List Regex) : commonItems first second <+: first := by
  fun_induction commonItems first second with
  | case1 r rest other others hsame ih => exact List.cons_prefix_cons.mpr ⟨rfl, ih⟩
  | case2 => exact List.nil_prefix
  | case3 => exact List.nil_prefix

lemma itemsOfAll_isPrefix (first : List Regex) (others : List (List Regex)) :
    itemsOfAll (first :: others) <+: first := by
  show others.foldl commonItems first <+: first
  induction others generalizing first with
  | nil => exact List.prefix_rfl
  | cons second others ih =>
    exact (ih (commonItems first second)).trans (commonItems_isPrefix first second)

lemma mapM_eq_none {α β : Type} {f : α → Option β} {a : α} (h : f a = none) (rest : List α) :
    (a :: rest).mapM f = none := by
  rw [List.mapM_cons, h]
  rfl

/-- A choice that begins with what is neither a character nor a set. -/
lemma choiceWithin_cons {budget : Nat} {rs more : List Regex} {other : Regex}
    (hbranches : rs.flatMap branches = r :: other :: more) (hchar : r.char? = none)
    (hset : r.set? = none) :
    choiceWithin (budget + 1) rs =
      match (r :: other :: more).mapM sequence? with
      | none => .alt (r :: other :: more)
      | some lists =>
        match itemsOfAll lists with
        | [] => .alt (r :: other :: more)
        | shared =>
          let endings := lists.map fun items => sequence (items.drop shared.length)
          sequence (shared ++ [choiceWithin budget endings]) := by
  rw [choiceWithin, hbranches]
  dsimp only
  rw [mapM_eq_none hchar, mapM_eq_none hset]
  cases (r :: other :: more).mapM sequence? with
  | none => rfl
  | some lists => rfl

/-- What all branches begin with is moved before the choice, and so the start of the text is, or the
branches stay as they are. -/
lemma isAnchored_choice (h : r.IsAnchored) (others : List Regex) :
    (choice (r :: others)).IsAnchored ∨
      choice (r :: others) = .alt (r :: others.flatMap branches) := by
  have hbranches : (r :: others).flatMap branches = r :: others.flatMap branches := by
    rw [List.flatMap_cons, h.branches]
    rfl
  cases hothers : others.flatMap branches with
  | nil =>
    rw [hothers] at hbranches
    rw [choice, choiceWithin, hbranches]
    exact .inl h
  | cons other more =>
    rw [hothers] at hbranches
    have hchar : r.char? = none := by cases h <;> rfl
    have hset : r.set? = none := by cases h <;> rfl
    rw [choice, choiceWithin_cons hbranches hchar hset]
    cases hlists : (r :: other :: more).mapM sequence? with
    | none => exact .inr rfl
    | some lists =>
      dsimp only
      cases hshared : itemsOfAll lists with
      | nil => exact .inr rfl
      | cons item shared =>
        -- All branches are sequences, and what they share is the beginning of the first one.
        rw [List.mapM_cons] at hlists
        obtain ⟨first, hfirst, hmore⟩ := Option.bind_eq_some_iff.mp hlists
        obtain ⟨lists', -, hlists'⟩ := Option.bind_eq_some_iff.mp hmore
        obtain rfl := Option.some.inj hlists'
        have hprefix := itemsOfAll_isPrefix first lists'
        rw [hshared] at hprefix
        cases h with
        | look => cases hfirst
        | seq rest =>
          obtain rfl := Option.some.inj hfirst
          obtain ⟨rfl, -⟩ := List.cons_prefix_cons.mp hprefix
          exact .inl (isAnchored_sequence _)

lemma begins_branches_iff :
    (∃ branch ∈ r.branches, branch.Begins text start) ↔ r.Begins text start := by
  cases r with
  | alt branches => exact begins_alt_iff.symm
  | _ => simp [branches]

/-- A match of a choice whose first branch begins at the start of the text begins there, or it is a
match of another branch. -/
lemma IsAnchored.begins_choice (h : r.IsAnchored)
    (hbegins : (choice (r :: others)).Begins text start) :
    start = 0 ∨ ∃ other ∈ others, other.Begins text start := by
  rcases isAnchored_choice h others with hanchored | halt
  · exact .inl (hanchored.eq_zero hbegins)
  · rw [halt, begins_alt_iff] at hbegins
    obtain ⟨branch, hbranch, hbegins⟩ := hbegins
    rcases List.mem_cons.mp hbranch with rfl | hbranch
    · exact .inl (h.eq_zero hbegins)
    · obtain ⟨other, hother, hbranch⟩ := List.mem_flatMap.mp hbranch
      exact .inr ⟨other, hother, begins_branches_iff.mp ⟨branch, hbranch, hbegins⟩⟩

/-! ## Reading the anchored expression -/

/-- The first branch that has been read begins with the start of the text, and more follows in
it. -/
def Progress.IsAnchored (p : Progress) : Prop :=
  (p.branches = [] ∧ ∃ item items, p.items = item :: (items ++ [.assertion .start])) ∨
    ∃ items branches, p.branches = branches ++ [.concat (.assertion .start :: items)]

lemma ofItems_concat {item last : Written} {items : List Written} :
    Written.ofItems (item :: (items ++ [last])) = .concat (item :: (items ++ [last])) := by
  cases items <;> rfl

namespace Progress.IsAnchored

lemma bar (h : p.IsAnchored) :
    IsAnchored ⟨[], Written.ofItems p.items.reverse :: p.branches, p.names⟩ := by
  obtain ⟨hbranches, item, items, hitems⟩ | ⟨items, branches, hbranches⟩ := h
  · refine .inr ⟨items.reverse ++ [item], [], ?_⟩
    rw [hitems, hbranches, List.reverse_cons, List.reverse_append]
    exact congrArg (· :: []) ofItems_concat
  · exact .inr ⟨items, Written.ofItems p.items.reverse :: branches, by rw [hbranches]; rfl⟩

lemma cons (h : p.IsAnchored) (item : Written) (names : List (List Char)) :
    IsAnchored ⟨item :: p.items, p.branches, names⟩ := by
  obtain ⟨hbranches, last, items, hitems⟩ | hbranches := h
  · exact .inl ⟨hbranches, item, last :: items, by rw [hitems]; rfl⟩
  · exact .inr hbranches

lemma again {counts : Nat × Option Nat} {items : List Written} (h : p.IsAnchored)
    (hrepeat : repeatLast counts p.items = some items) : IsAnchored { p with items } := by
  obtain ⟨hbranches, last, before, hitems⟩ | hbranches := h
  · rw [hitems, repeatLast] at hrepeat
    split at hrepeat
    · exact .inl ⟨hbranches, _, before, (Option.some.inj hrepeat).symm⟩
    · cases hrepeat
  · exact .inr hbranches

lemma written (h : p.IsAnchored) :
    ∃ items others,
      p.written = Written.ofBranches (.concat (.assertion .start :: items) :: others) := by
  obtain ⟨hnone, -⟩ | ⟨items, branches, hbranches⟩ := h.bar
  · cases hnone
  · refine ⟨items, branches.reverse, ?_⟩
    rw [Progress.written, show Written.ofItems p.items.reverse :: p.branches = _ from hbranches,
      List.reverse_append]
    rfl

end Progress.IsAnchored

/-- The first branch of what is read begins with the start of the text if it does so from the
outset: no step takes that away. -/
lemma Reads.anchored (h : Reads verbose p text w names rest) (hp : p.IsAnchored) :
    ∃ items others, w = Written.ofBranches (.concat (.assertion .start :: items) :: others) := by
  induction h with
  | stop => exact hp.written
  | close => exact hp.written
  | bar _ _ ih => exact ih hp.bar
  | flags _ _ _ ih => exact ih (hp.cons _ _)
  | group _ _ _ _ _ _ ih => exact ih (hp.cons _ _)
  | again _ _ hrepeat _ ih =>
    obtain ⟨counts, -, hlast, -⟩ | ⟨-, counts, -, hlast⟩ := takeRepetition?_eq_some.mp hrepeat
    · exact ih (hp.again hlast)
    · exact ih (hp.again hlast)
  | item _ _ _ _ _ ih => exact ih (hp.cons _ _)

/-- The anchored expression is read as the start of the text and a group, which a parenthesis behind
the pattern or in it closes. -/
lemma reads_anchored
    (h : Reads false ⟨[], [], []⟩ ('^' :: '(' :: '?' :: ':' :: text) w names rest) :
    ∃ inner names' left, Reads false ⟨[], [], []⟩ text inner names' (')' :: left) ∧
      Reads false ⟨[.group false [] inner, .assertion .start], [], names'⟩ left w names rest := by
  cases h with
  | stop hskip => cases hskip
  | close hskip => cases hskip
  | bar hskip _ => cases hskip
  | flags hskip _ _ => cases hskip
  | group hskip _ _ _ _ => cases hskip
  | again hskip _ hrepeat _ =>
    cases hskip
    cases hrepeat
  | item hskip _ _ hitem hmore =>
    cases hskip
    cases hitem
    cases hmore with
    | stop hskip => cases hskip
    | close hskip => cases hskip
    | bar hskip _ => cases hskip
    | flags hskip hopening _ =>
      cases hskip
      cases hopening
    | group hskip hopening _ hinner hmore =>
      cases hskip
      cases hopening
      exact ⟨_, _, _, hinner, hmore⟩
    | again hskip hc _ _ =>
      cases hskip
      exact absurd rfl hc.2.2
    | item hskip hc _ _ _ =>
      cases hskip
      exact absurd rfl hc.2.2

lemma ofText?_eq_some {text : String} (h : ofText? text = some r) :
    ∃ w after, Written.parse text.toList = some w ∧ w.toRegex? .initial = some (r, after) := by
  obtain ⟨w, hparse, hmore⟩ := Option.bind_eq_some_iff.mp h
  obtain ⟨⟨r', after⟩, hregex, hfits⟩ := Option.bind_eq_some_iff.mp hmore
  refine ⟨w, after, hparse, ?_⟩
  dsimp only at hfits
  split at hfits
  · rw [hregex, Option.some.inj hfits]
  · cases hfits

/-- A branch that begins with the start of the text asks for it under the flags that hold at
first. -/
lemma isAnchored_of_toRegex? {items : List Written} {f after : Flags} (hf : f.multiLine = false)
    (h : Written.toRegex? f (.concat (.assertion .start :: items)) = some (r, after)) :
    r.IsAnchored := by
  rw [Written.toRegex?] at h
  obtain ⟨⟨rs, after'⟩, heach, hr⟩ := Option.bind_eq_some_iff.mp h
  rw [Written.eachToRegex?] at heach
  obtain ⟨⟨first, between⟩, hfirst, hmore⟩ := Option.bind_eq_some_iff.mp heach
  obtain ⟨⟨more, after''⟩, -, hrs⟩ := Option.bind_eq_some_iff.mp hmore
  have hlook : first = .look .textStart := by
    rw [Written.toRegex?] at hfirst
    have hstart : Assertion.toLook f .start = .textStart := if_neg (by rw [hf]; exact nofun)
    rw [← (Prod.mk.inj (Option.some.inj hfirst)).1, hstart]
  obtain ⟨rfl, -⟩ := Prod.mk.inj (Option.some.inj hrs)
  obtain ⟨rfl, -⟩ := Prod.mk.inj (Option.some.inj hr)
  rw [hlook]
  exact isAnchored_sequence more

end Regex

namespace Store

open Regex (Written Flags)

/-! ## Listed names -/

/-- The branches behind the bars that stand outside of the group a pattern is put into. -/
def outside (pattern : String) : List Regex :=
  match Written.parse (anchored pattern).toList with
  | some (.alternation branches) =>
    match Written.eachToRegex? Flags.initial branches with
    | some (_ :: others, _) => others
    | _ => []
  | _ => []

/-- The names of a database that an expression matches, in their order. -/
def listedBy (s : Store) (db : String) (r : Regex) : List String :=
  ((s.databases[db]?.getD ∅).keys).filter fun key => r.isMatch key.toList

variable {s : Store} {db pattern names : String} {r : Regex} {text : List Char} {start : Nat}

lemma toList_anchored (pattern : String) :
    (anchored pattern).toList = '^' :: '(' :: '?' :: ':' :: (pattern.toList ++ [')']) := by
  rw [anchored, String.toList_append, String.toList_append]
  rfl

/-- A match of the anchored expression begins at the start of the text, or it is a match of a branch
outside of the group. -/
lemma begins_anchored (hr : Regex.ofText? (anchored pattern) = some r)
    (hbegins : r.Begins text start) :
    start = 0 ∨ ∃ branch ∈ outside pattern, branch.Begins text start := by
  obtain ⟨w, after, hparse, hregex⟩ := Regex.ofText?_eq_some hr
  obtain ⟨names, hreads⟩ := Regex.reads_of_parse hparse
  rw [toList_anchored] at hreads
  obtain ⟨inner, names', left, -, hmore⟩ := Regex.reads_anchored hreads
  obtain ⟨items, others, rfl⟩ := hmore.anchored (.inl ⟨rfl, _, [], rfl⟩)
  cases others with
  | nil => exact .inl ((Regex.isAnchored_of_toRegex? rfl hregex).eq_zero hbegins)
  | cons other others =>
    -- The choice between the branches is put together from what each of them stands for.
    have halternation : Written.toRegex? Flags.initial
        (.alternation (.concat (.assertion .start :: items) :: other :: others)) =
          some (r, after) := hregex
    rw [Written.toRegex?] at halternation
    obtain ⟨⟨rs, after'⟩, heach, hchoice⟩ := Option.bind_eq_some_iff.mp halternation
    obtain ⟨rfl, -⟩ := Prod.mk.inj (Option.some.inj hchoice)
    have hbranches := heach
    rw [Written.eachToRegex?] at hbranches
    obtain ⟨⟨first, between⟩, hfirst, hmore⟩ := Option.bind_eq_some_iff.mp hbranches
    obtain ⟨⟨more, after''⟩, -, hrs⟩ := Option.bind_eq_some_iff.mp hmore
    obtain ⟨rfl, -⟩ := Prod.mk.inj (Option.some.inj hrs)
    have houtside : outside pattern = more := by
      rw [outside, hparse]
      show (match Written.eachToRegex? Flags.initial _ with
        | some (_ :: others, _) => others
        | _ => []) = more
      rw [heach]
    rw [houtside]
    exact (Regex.isAnchored_of_toRegex? rfl hfirst).begins_choice hbegins

/-- No branch is outside of the group of a pattern that can stand alone. -/
lemma outside_eq_nil (halone : (Written.parse pattern.toList).isSome) : outside pattern = [] := by
  obtain ⟨alone, halone⟩ := Option.isSome_iff_exists.mp halone
  rw [outside]
  split
  · rename_i branches hparse
    obtain ⟨names, hreads⟩ := Regex.reads_of_parse hparse
    rw [toList_anchored] at hreads
    obtain ⟨inner, names', left, hgroup, hmore⟩ := Regex.reads_anchored hreads
    obtain rfl := Regex.rest_eq_nil_of_parse halone hgroup
    -- Nothing is left behind the group, so what was read is not a choice.
    cases hmore with
    | bar hskip _ => cases hskip
    | flags hskip _ _ => cases hskip
    | group hskip _ _ _ _ => cases hskip
    | again hskip _ _ _ => cases hskip
    | item hskip _ _ _ _ => cases hskip
  · rfl

/-- **Names are matched at their start, except by what a pattern puts outside of its group.**  Of
each name that is listed a match begins at its first character, or a branch behind a bar outside of
the group matches the name.  A pattern that can stand alone puts nothing there. -/
theorem keysMatching_begins (h : s.keysMatching db pattern = .ok names) :
    ∃ r, Regex.ofText? (anchored pattern) = some r ∧
      names = " ".intercalate (s.listedBy db r) ∧
      (∀ key ∈ s.listedBy db r, r.Begins key.toList 0 ∨
        ∃ branch ∈ outside pattern, branch.isMatch key.toList) ∧
      ((Written.parse pattern.toList).isSome →
        ∀ key ∈ s.listedBy db r, r.Begins key.toList 0) := by
  rw [keysMatching] at h
  split at h
  · rename_i r hr
    have hlisted : ∀ key ∈ s.listedBy db r, r.Begins key.toList 0 ∨
        ∃ branch ∈ outside pattern, branch.isMatch key.toList := by
      intro key hkey
      obtain ⟨start, hstart, hbegins⟩ := Regex.isMatch_iff.mp (List.mem_filter.mp hkey).2
      rcases begins_anchored hr hbegins with rfl | ⟨branch, hbranch, hbegins'⟩
      · exact .inl hbegins
      · exact .inr ⟨branch, hbranch, Regex.isMatch_iff.mpr ⟨start, hstart, hbegins'⟩⟩
    refine ⟨r, hr, (Except.ok.inj h).symm, hlisted, fun halone key hkey => ?_⟩
    rcases hlisted key hkey with hbegins | ⟨branch, hbranch, -⟩
    · exact hbegins
    · rw [outside_eq_nil halone] at hbranch
      cases hbranch
  · cases h

/-- A pattern with a bar, two names that begin with one of its branches, and one that does not. -/
theorem keysMatching_begins_either :
    let s := (((Store.new true).put "0" "ax" (.string [])).put "0" "b" (.string [])).put "0" "xb"
      (.string [])
    s.keysMatching "0" "a|b" = .ok "ax b" ∧
      ∃ r, Regex.ofText? (anchored "a|b") = some r ∧
        ∀ key ∈ s.listedBy "0" r, r.Begins key.toList 0 := by
  intro s
  have hnames : s.keysMatching "0" "a|b" = .ok "ax b" := by decide +kernel
  obtain ⟨r, hr, -, -, hbegins⟩ := keysMatching_begins hnames
  exact ⟨hnames, r, hr, hbegins (by decide +kernel)⟩

/-- It is not so that of every listed name a match begins at its first character: a pattern may
close the group that it is put into. -/
theorem not_keysMatching_begins_closing :
    ¬ ∀ (s : Store) (db pattern names : String), s.keysMatching db pattern = .ok names →
      ∃ r, Regex.ofText? (anchored pattern) = some r ∧
        ∀ key ∈ s.listedBy db r, r.Begins key.toList 0 := by
  intro hclaimed
  let s := ((Store.new true).put "0" "ax" (.string [])).put "0" "xb" (.string [])
  have hnames : s.keysMatching "0" "a)|(?:b" = .ok "ax xb" := by decide +kernel
  obtain ⟨r, hr, hbegins⟩ := hclaimed s "0" "a)|(?:b" "ax xb" hnames
  have hlate : (Regex.ofText? (anchored "a)|(?:b")).any fun r =>
      (s.listedBy "0" r).contains "xb" && !decide (r.Begins "xb".toList 0) := by decide +kernel
  rw [hr, Option.any_some, Bool.and_eq_true, List.contains_iff_mem, Bool.not_eq_true',
    decide_eq_false_iff_not] at hlate
  exact hlate.2 (hbegins "xb" hlate.1)

end Store

end ReplicatedStore
