import Mathlib.Tactic.Common
import ReplicatedStore.Text.Split

/-!
# What was cut at separators

A text is cut on either side of a separator on its own (`Text.splitOn_append_sep`), so that pieces
without separators, put together, are cut into the same pieces (`Text.splitOn_join`).  Where a text
is cut once, the first separator stands behind a piece without any (`Text.splitFirst?_eq_some_iff`).
-/

namespace ReplicatedStore

namespace Text

variable {α : Type}

lemma consFirst_append (a : α) {pieces : List (List α)} (h : pieces ≠ []) (others : List (List α)) :
    consFirst a (pieces ++ others) = consFirst a pieces ++ others := by
  obtain ⟨piece, rest, rfl⟩ := List.exists_cons_of_ne_nil h
  rfl

section SplitOn

variable [DecidableEq α] {sep : α}

/-- A text is cut on either side of a separator. -/
lemma splitOn_append_sep (sep : α) (before after : List α) :
    splitOn sep (before ++ sep :: after) = splitOn sep before ++ splitOn sep after := by
  induction before with
  | nil => simp [splitOn]
  | cons a rest ih =>
    rw [List.cons_append, splitOn, splitOn]
    split
    · rw [ih, List.cons_append]
    · rw [ih, consFirst_append a (splitOn_ne_nil sep rest)]

lemma splitOn_of_not_mem {piece : List α} (h : sep ∉ piece) : splitOn sep piece = [piece] := by
  induction piece with
  | nil => rfl
  | cons a rest ih =>
    have ha : a ≠ sep := fun heq => h (heq ▸ List.mem_cons_self)
    have hrest : sep ∉ rest := fun hmem => h (List.mem_cons_of_mem _ hmem)
    rw [splitOn, if_neg ha, ih hrest, consFirst]

lemma splitOn_append {piece : List α} (h : sep ∉ piece) (rest : List α) :
    splitOn sep (piece ++ sep :: rest) = piece :: splitOn sep rest := by
  rw [splitOn_append_sep, splitOn_of_not_mem h, List.singleton_append]

/-- Pieces with separators between them are cut into the same pieces. -/
lemma splitOn_join {first : List α} {pieces : List (List α)} (hfirst : sep ∉ first)
    (hpieces : ∀ piece ∈ pieces, sep ∉ piece) :
    splitOn sep (first ++ pieces.flatMap fun piece => sep :: piece) = first :: pieces := by
  induction pieces generalizing first with
  | nil => rw [List.flatMap_nil, List.append_nil, splitOn_of_not_mem hfirst]
  | cons piece others ih =>
    have hothers := ih (hpieces piece List.mem_cons_self) fun other hmem =>
      hpieces other (List.mem_cons_of_mem _ hmem)
    rw [List.flatMap_cons, List.cons_append, splitOn_append hfirst, hothers]

end SplitOn

/-- What stands before and after the first separator. -/
lemma splitFirst?_eq_some_iff {isSep : α → Bool} {l before after : List α} :
    splitFirst? isSep l = some (before, after) ↔
      ∃ sep, isSep sep ∧ l = before ++ sep :: after ∧ ∀ a ∈ before, isSep a = false := by
  induction l generalizing before with
  | nil => simp [splitFirst?]
  | cons a rest ih =>
    rw [splitFirst?]
    cases hsep : isSep a with
    | true =>
      rw [if_pos rfl]
      constructor
      · rintro ⟨⟩
        exact ⟨a, hsep, rfl, by simp⟩
      · rintro ⟨sep, -, hcut, hbefore⟩
        cases before with
        | nil => rw [(List.cons.inj hcut).2]
        | cons b others =>
          obtain ⟨rfl, -⟩ := List.cons.inj hcut
          rw [hbefore a List.mem_cons_self] at hsep
          cases hsep
    | false =>
      rw [if_neg Bool.false_ne_true, Option.map_eq_some_iff]
      constructor
      · rintro ⟨⟨others, after'⟩, hfound, heq⟩
        obtain ⟨rfl, rfl⟩ := Prod.mk.inj heq
        obtain ⟨sep, hsep', rfl, hothers⟩ := ih.mp hfound
        exact ⟨sep, hsep', rfl, List.forall_mem_cons.mpr ⟨hsep, hothers⟩⟩
      · rintro ⟨sep, hsep', hcut, hbefore⟩
        cases before with
        | nil =>
          rw [(List.cons.inj hcut).1, hsep'] at hsep
          cases hsep
        | cons b others =>
          obtain ⟨rfl, hrest⟩ := List.cons.inj hcut
          obtain ⟨-, hothers⟩ := List.forall_mem_cons.mp hbefore
          exact ⟨(others, after), ih.mpr ⟨sep, hsep', hrest, hothers⟩, rfl⟩

/-- What was cut at the last separator, put together again. -/
lemma eq_of_splitLast? [DecidableEq α] {sep : α} {l before after : List α}
    (h : splitLast? sep l = some (before, after)) : l = before ++ sep :: after := by
  obtain ⟨parts, hparts, heq⟩ := Option.map_eq_some_iff.mp h
  cases heq
  obtain ⟨found, hfound, hreverse, -⟩ := splitFirst?_eq_some_iff.mp hparts
  obtain rfl : found = sep := eq_of_beq hfound
  rw [← l.reverse_reverse, hreverse]
  simp

end Text

end ReplicatedStore
