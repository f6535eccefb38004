import Mathlib.Logic.Function.Iterate
import Mathlib.Tactic.Common
import ReplicatedStore.Pattern.Regex

/-!
# Matches and where they begin

An expression is held against a text from all its places at once, and repetitions stop early where
nothing new is found.  Neither changes anything: the places reached from several are those reached
from each of them (`Regex.reach_isPointwise`).  So an expression matches a text just where a match
begins at one of its places (`Regex.isMatch_iff`).
-/

namespace ReplicatedStore.Regex

/-! ## Steps -/

lemma mem_uniteThrough {next : List Nat → List Nat} {ps : List Nat}
    (hnext : ∀ qs q, q ∈ next qs ↔ q ∈ ps ∨ q ∈ qs) {p : Nat} {qs : List Nat} {q : Nat} :
    q ∈ uniteThrough p next qs ↔ q ∈ p :: ps ∨ q ∈ qs := by
  induction qs with
  | nil => simp [uniteThrough, hnext]
  | cons q' qs ih =>
    rw [uniteThrough]
    split
    · simp only [List.mem_cons, hnext, or_assoc]
    · split
      · simp only [List.mem_cons, ih]
        tauto
      · obtain rfl : p = q' := by omega
        simp only [List.mem_cons, hnext]
        tauto

lemma mem_unite {ps qs : List Nat} {q : Nat} : q ∈ unite ps qs ↔ q ∈ ps ∨ q ∈ qs := by
  induction ps generalizing qs q with
  | nil => simp [unite]
  | cons p ps ih => exact mem_uniteThrough fun qs q => ih

lemma stepTimes_eq_iterate (step : List Nat → List Nat) (n : Nat) (ps : List Nat) :
    stepTimes step n ps = step^[n] ps := by
  induction n generalizing ps with
  | zero => rfl
  | succ n ih =>
    rw [stepTimes]
    split
    · rename_i hfixed
      exact (Function.iterate_fixed hfixed (n + 1)).symm
    · rw [ih, Function.iterate_succ_apply]

lemma stepUpTo_eq_iterate (step : List Nat → List Nat) (n : Nat) (ps : List Nat) :
    stepUpTo step n ps = (fun qs => unite qs (step qs))^[n] ps := by
  induction n generalizing ps with
  | zero => rfl
  | succ n ih =>
    rw [stepUpTo]
    split
    · rename_i hfixed
      exact (Function.iterate_fixed (f := fun qs => unite qs (step qs)) hfixed (n + 1)).symm
    · rw [ih, Function.iterate_succ_apply]

/-- The step leads from several places just where it leads from each of them. -/
def IsPointwise (step : List Nat → List Nat) : Prop :=
  ∀ ps q, q ∈ step ps ↔ ∃ p ∈ ps, q ∈ step [p]

namespace IsPointwise

variable {step next : List Nat → List Nat}

/-- It is enough that the places it leads to are told from one place at a time. -/
lemma of_leads (leads : Nat → Nat → Prop) (h : ∀ ps q, q ∈ step ps ↔ ∃ p ∈ ps, leads p q) :
    IsPointwise step := by
  intro ps q
  rw [h ps q]
  refine exists_congr fun p => and_congr_right fun _ => ?_
  rw [h [p] q]
  simp

/-- From nowhere it leads nowhere. -/
lemma nil (h : IsPointwise step) : step [] = [] :=
  List.eq_nil_iff_forall_not_mem.mpr fun q hq => by
    obtain ⟨p, hp, -⟩ := (h [] q).mp hq
    cases hp

lemma stay : IsPointwise fun ps => ps :=
  .of_leads (· = ·) fun ps q => by simp

lemma filter (test : Nat → Bool) : IsPointwise fun ps => ps.filter test :=
  .of_leads (fun p q => test p = true ∧ p = q) fun ps q => by
    rw [List.mem_filter]
    constructor
    · rintro ⟨hq, htest⟩
      exact ⟨q, hq, htest, rfl⟩
    · rintro ⟨p, hp, htest, rfl⟩
      exact ⟨hp, htest⟩

lemma move (test : Nat → Bool) (n : Nat) :
    IsPointwise fun ps => (ps.filter test).map (· + n) :=
  .of_leads (fun p q => test p = true ∧ p + n = q) fun ps q => by
    simp only [List.mem_map, List.mem_filter, and_assoc]

lemma comp (hnext : IsPointwise next) (hstep : IsPointwise step) :
    IsPointwise fun ps => next (step ps) := by
  refine .of_leads (fun p q => ∃ mid ∈ step [p], q ∈ next [mid]) fun ps q => ?_
  rw [hnext (step ps) q]
  constructor
  · rintro ⟨mid, hmid, hq⟩
    obtain ⟨p, hp, hled⟩ := (hstep ps mid).mp hmid
    exact ⟨p, hp, mid, hled, hq⟩
  · rintro ⟨p, hp, mid, hled, hq⟩
    exact ⟨mid, (hstep ps mid).mpr ⟨p, hp, hled⟩, hq⟩

lemma unite (hstep : IsPointwise step) (hnext : IsPointwise next) :
    IsPointwise fun ps => Regex.unite (step ps) (next ps) := by
  refine .of_leads (fun p q => q ∈ step [p] ∨ q ∈ next [p]) fun ps q => ?_
  rw [mem_unite, hstep ps q, hnext ps q, ← exists_or]
  refine exists_congr fun p => ?_
  rw [← and_or_left]

lemma iterate (hstep : IsPointwise step) (n : Nat) : IsPointwise step^[n] := by
  induction n with
  | zero => exact stay
  | succ n ih => exact ih.comp hstep

lemma stepTimes (hstep : IsPointwise step) (n : Nat) : IsPointwise (Regex.stepTimes step n) := by
  rw [show Regex.stepTimes step n = step^[n] from funext (stepTimes_eq_iterate step n)]
  exact hstep.iterate n

lemma stepUpTo (hstep : IsPointwise step) (n : Nat) : IsPointwise (Regex.stepUpTo step n) := by
  rw [show Regex.stepUpTo step n = _ from funext (stepUpTo_eq_iterate step n)]
  exact (stay.unite hstep).iterate n

end IsPointwise

/-! ## Expressions -/

mutual

lemma reach_isPointwise (text : List Char) : ∀ r : Regex, IsPointwise (reach text r)
  | .empty => .stay
  | .text word => .move (fun p => word.isPrefixOf (text.drop p)) word.length
  | .one chars => .move (fun p => text[p]?.any chars.has) 1
  | .look l => .filter fun p => l.holds text p
  | .times r least (some most) =>
    ((reach_isPointwise text r).stepUpTo (most - least)).comp
      ((reach_isPointwise text r).stepTimes least)
  | .times r least none =>
    ((reach_isPointwise text r).stepUpTo (text.length + 1)).comp
      ((reach_isPointwise text r).stepTimes least)
  | .group r => reach_isPointwise text r
  | .seq items => reachThrough_isPointwise text items
  | .alt branches => reachAny_isPointwise text branches

lemma reachThrough_isPointwise (text : List Char) :
    ∀ items : List Regex, IsPointwise (reachThrough text items)
  | [] => .stay
  | r :: rest => (reachThrough_isPointwise text rest).comp (reach_isPointwise text r)

lemma reachAny_isPointwise (text : List Char) :
    ∀ branches : List Regex, IsPointwise (reachAny text branches)
  | [] => .of_leads (fun _ _ => False) fun ps q => by simp [reachAny]
  | r :: rest => (reach_isPointwise text r).unite (reachAny_isPointwise text rest)

end

/-- Does a match of the expression begin at the place of the text? -/
def Begins (r : Regex) (text : List Char) (start : Nat) : Prop :=
  reach text r [start] ≠ []

instance (r : Regex) (text : List Char) (start : Nat) : Decidable (r.Begins text start) :=
  inferInstanceAs (Decidable (_ ≠ _))

lemma begins_iff {r : Regex} {text : List Char} {start : Nat} :
    r.Begins text start ↔ ∃ stop, stop ∈ reach text r [start] :=
  ⟨List.exists_mem_of_ne_nil _, fun ⟨_, hstop⟩ => List.ne_nil_of_mem hstop⟩

/-- **An expression matches a text just where a match begins at one of its places.** -/
theorem isMatch_iff {r : Regex} {text : List Char} :
    r.isMatch text = true ↔ ∃ start ≤ text.length, r.Begins text start := by
  rw [isMatch, Bool.not_eq_true', List.isEmpty_eq_false_iff]
  constructor
  · intro hmatch
    obtain ⟨stop, hstop⟩ := List.exists_mem_of_ne_nil _ hmatch
    obtain ⟨start, hstart, hreached⟩ := (reach_isPointwise text r _ stop).mp hstop
    exact ⟨start, Nat.le_of_lt_succ (List.mem_range.mp hstart), begins_iff.mpr ⟨stop, hreached⟩⟩
  · rintro ⟨start, hstart, hbegins⟩
    obtain ⟨stop, hreached⟩ := begins_iff.mp hbegins
    exact List.ne_nil_of_mem ((reach_isPointwise text r _ stop).mpr
      ⟨start, List.mem_range.mpr (Nat.lt_succ_of_le hstart), hreached⟩)

/-- A choice matches where one of its branches does. -/
lemma begins_alt_iff {branches : List Regex} {text : List Char} {start : Nat} :
    (Regex.alt branches).Begins text start ↔ ∃ r ∈ branches, r.Begins text start := by
  have hbranches (bs : List Regex) (q : Nat) :
      q ∈ reachAny text bs [start] ↔ ∃ r ∈ bs, q ∈ reach text r [start] := by
    induction bs with
    | nil => simp [reachAny]
    | cons r rest ih => simp only [reachAny, mem_unite, ih, List.mem_cons, exists_eq_or_imp]
  simp only [begins_iff]
  constructor
  · rintro ⟨q, hq⟩
    obtain ⟨r, hr, hreached⟩ := (hbranches branches q).mp hq
    exact ⟨r, hr, q, hreached⟩
  · rintro ⟨r, hr, q, hreached⟩
    exact ⟨q, (hbranches branches q).mpr ⟨r, hr, hreached⟩⟩

end ReplicatedStore.Regex
