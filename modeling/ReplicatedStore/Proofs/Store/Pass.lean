import ReplicatedStore.Proofs.Store.Lockstep

/-!
# The pass that ends keys, exactly

A pass goes through the agenda in its order, up to the time of the pass, and removes each key that
it finds there; every removal edits the agenda and the values.  In a reachable store the agenda
lists each key once, so what is removed is exactly what was due when the pass began: one step per
key, and on the authority one recorded change per step, in the order of the deadline, the database
and the key (`Passed`, `Reachable.passes`).  The version counts these steps until it starts again at
zero (`Reachable.not_passes_last`).

The answer of a pass is when to come back.  It is the least deadline that is left
(`Agenda.Indexed.next?_eq_some`), and there is none exactly if no key has a deadline any more.
-/

open Std (ExtTreeSet)

namespace ReplicatedStore

/-! ## The next deadline -/

lemma Ending.deadline_le_of_isLE {a b : Ending} (h : (Ending.order a b).isLE) :
    a.deadline ≤ b.deadline := by
  rcases Ordering.isLE_iff_eq_lt_or_eq_eq.mp h with hlt | heq
  · exact deadline_le_of_order hlt
  · exact Nat.le_of_eq (congrArg deadline (Std.LawfulEqCmp.compare_eq_iff_eq.mp heq))

namespace Agenda

variable {a : Agenda}

/-- The next deadline is the least one. -/
lemma Indexed.next?_eq_some (h : a.Indexed) {first : Nat} :
    a.next? = some first ↔
      (∃ d k, a.deadline? d k = some first) ∧
        ∀ d k t, a.deadline? d k = some t → first ≤ t := by
  have hleast : ∀ e, a.endings.min? = some e →
      a.deadline? e.db e.key = some e.deadline ∧
        ∀ d k t, a.deadline? d k = some t → e.deadline ≤ t := by
    intro e he
    obtain ⟨hmem, hle⟩ := ExtTreeSet.min?_eq_some_iff_mem_and_forall.mp he
    exact ⟨(h e.deadline e.db e.key).mp hmem, fun d k t ht =>
      Ending.deadline_le_of_isLE (hle ⟨t, d, k⟩ ((h t d k).mpr ht))⟩
  rw [next?, Option.map_eq_some_iff]
  constructor
  · rintro ⟨e, he, rfl⟩
    obtain ⟨hat, hle⟩ := hleast e he
    exact ⟨⟨e.db, e.key, hat⟩, hle⟩
  · rintro ⟨⟨d, k, hat⟩, hle⟩
    have hmem := (h first d k).mpr hat
    cases hmin : a.endings.min? with
    | none =>
      rw [ExtTreeSet.min?_eq_none_iff.mp hmin] at hmem
      exact absurd hmem ExtTreeSet.not_mem_empty
    | some e =>
      obtain ⟨hfirst, hbefore⟩ := hleast e hmin
      exact ⟨e, rfl, Nat.le_antisymm (hbefore d k first hat) (hle e.db e.key e.deadline hfirst)⟩

lemma Indexed.next?_eq_none (h : a.Indexed) :
    a.next? = none ↔ ∀ d k, a.deadline? d k = none := by
  constructor
  · intro hnone d k
    by_contra hsome
    obtain ⟨t, ht⟩ := Option.ne_none_iff_exists'.mp hsome
    have hmem := (h t d k).mpr ht
    rw [next?, Option.map_eq_none_iff, ExtTreeSet.min?_eq_none_iff] at hnone
    rw [hnone] at hmem
    exact ExtTreeSet.not_mem_empty hmem
  · intro hnone
    by_contra hsome
    obtain ⟨first, hfirst⟩ := Option.ne_none_iff_exists'.mp hsome
    obtain ⟨⟨d, k, hat⟩, -⟩ := h.next?_eq_some.mp hfirst
    rw [hnone d k] at hat
    cases hat

end Agenda

namespace Store

/-! ## What a pass counts and records -/

lemma removals_eq_mapIdx (version : Nat) (endings : List Ending) :
    removals version endings = endings.mapIdx fun i e =>
      ⟨e.db, "del", [Bytes.ofText e.key], some (version + i + 1)⟩ := by
  induction endings generalizing version with
  | nil => rfl
  | cons e rest ih =>
    rw [removals, ih, List.mapIdx_cons]
    congr 2
    funext i e'
    rw [Nat.add_right_comm version 1 i, Nat.add_assoc version i 1]

lemma revision_endKeys (s : Store) (endings : List Ending) :
    (endings.foldl endKey s).revision = s.revision + if s.authority then endings.length else 0 := by
  induction endings generalizing s with
  | nil => simp
  | cons e rest ih =>
    rw [List.foldl_cons, ih, revision_endKey, authority_endKey, List.length_cons]
    cases s.authority
    · simp
    · simp
      omega

/-! ## The pass -/

/-- A pass at the time `now` takes the store from `s` to `t`, ends the keys `ended` and answers
`next`. -/
structure Passed (s : Store) (now : Nat) (ended : List Ending) (next : Option Nat) (t : Store) :
    Prop where
  /-- The keys end by deadline, then database, then key. -/
  ordered : ended.Pairwise fun a b => Ending.order a b = .lt
  /-- No key ends twice. -/
  distinct : ended.Pairwise fun a b => ¬ (b.db = a.db ∧ b.key = a.key)
  /-- Those keys end whose deadline is not after `now`; all of them exist. -/
  due : ∀ deadline d k, ⟨deadline, d, k⟩ ∈ ended ↔
    s.has d k ∧ s.deadline? d k = some deadline ∧ deadline ≤ now
  /-- A key that ends is gone. -/
  gone : ∀ e ∈ ended, t.value? e.db e.key = none ∧ t.deadline? e.db e.key = none
  /-- Every other key keeps its value and its deadline. -/
  kept : ∀ d k, (∀ e ∈ ended, ¬ (e.db = d ∧ e.key = k)) →
    t.value? d k = s.value? d k ∧ t.deadline? d k = s.deadline? d k
  /-- The answer is the least deadline that is left. -/
  next_some : ∀ first, next = some first ↔
    (∃ d k, t.deadline? d k = some first) ∧ ∀ d k u, t.deadline? d k = some u → first ≤ u
  /-- It is still to come. -/
  next_later : ∀ first, next = some first → now < first
  /-- There is no answer if no deadline is left. -/
  next_none : next = none ↔ ∀ d k, t.deadline? d k = none
  /-- The authority counts every key, and records its removal if the journal is on. -/
  authority : s.authority → t.revision < 2 ^ 64 → t.version = s.version + ended.length ∧
    t.journal = { s.journal with
      pending := s.journal.pending ++
        if s.journal.recording then ended.mapIdx fun i e =>
          ⟨e.db, "del", [Bytes.ofText e.key], some (s.version + i + 1)⟩
        else [] }
  /-- Another node neither counts nor records anything. -/
  replica : ¬ s.authority → t.version = s.version ∧ t.journal = s.journal

lemma Tidy.passed {s : Store} (h : s.Tidy) (now : Nat) :
    s.Passed now (s.agenda.due now) (s.expirePass now).1 (s.expirePass now).2 := by
  have hafter := h.expirePass now
  have hkeys := fun d k => expirePass_keys h now d k
  constructor
  case ordered => exact ExtTreeSet.ordered_toList.sublist (List.takeWhile_sublist _)
  case distinct => exact due_distinct h now
  case due =>
    intro deadline d k
    rw [h.indexed.mem_due]
    exact ⟨fun hdue => ⟨h.held d k deadline hdue.1, hdue⟩, And.right⟩
  case gone =>
    rintro ⟨deadline, d, k⟩ he
    exact (hkeys d k).1 ⟨deadline, h.indexed.mem_due.mp he⟩
  case kept =>
    intro d k hother
    refine (hkeys d k).2 fun t ht => ?_
    by_contra hended
    exact hother ⟨t, d, k⟩ (h.indexed.mem_due.mpr ⟨ht, Nat.not_lt.mp hended⟩) ⟨rfl, rfl⟩
  case next_some => exact fun first => hafter.indexed.next?_eq_some
  case next_later =>
    intro first hfirst
    obtain ⟨⟨d, k, hat⟩, -⟩ := hafter.indexed.next?_eq_some.mp hfirst
    by_contra hended
    -- Had it come, the key would have ended with its deadline.
    by_cases hdue : ∃ t, s.deadline? d k = some t ∧ t ≤ now
    · have hnone := ((hkeys d k).1 hdue).2
      rw [show (s.expirePass now).2.deadline? d k = some first from hat] at hnone
      cases hnone
    · have hsame := ((hkeys d k).2 fun t ht => by
        by_contra hle
        exact hdue ⟨t, ht, Nat.not_lt.mp hle⟩).2
      exact hdue ⟨first, hsame.symm.trans hat, Nat.not_lt.mp hended⟩
  case next_none => exact hafter.indexed.next?_eq_none
  case authority =>
    intro hauthority hbound
    have hcommits : s.Commits _ (s.expirePass now).2 := s.endKeys_commits (s.agenda.due now)
    rw [if_pos hauthority, removals_eq_mapIdx] at hcommits
    obtain ⟨hfirst, hlast⟩ := hcommits.version_eq hbound
    rw [hfirst, hlast]
    constructor
    · exact (s.revision_endKeys _).trans (by rw [if_pos hauthority])
    · show (s.expirePass now).2.journal = ⟨s.journal.recording, _⟩
      rw [← hcommits.pending, ← hcommits.recording]
  case replica =>
    intro hreplica
    have hsame := expirePass_replica hreplica now
    exact ⟨congrArg (· % 0x10000000000000000) hsame.revision, hsame.journal⟩

end Store

end ReplicatedStore
