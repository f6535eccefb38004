import ReplicatedStore.Proofs.Store.Footprint

/-!
# Doing on a copy what was done on the store

`Follows late now lost s t` says that `t` is a copy of `s`: it holds the same values, and has a
deadline for the same keys, but for some *lost* keys.  Those were taken out of the copy although the
store still has them, which only happens to keys whose deadline has passed by the time `now`; since
then the copy holds nothing under them, or something of the same type.  The deadlines of the copy
may differ from those of the store, as its clock may; `late` says in which way.

An operation that was recorded on the store is carried out on the copy with the same effect
(`Follows.replay`), as long as it needs none of the lost keys.  A lost key is one no more once an
operation settles it.
-/

namespace ReplicatedStore.Store

/-! ## Deadlines of a store and its copy -/

/-- Two deadlines of one key in different stores: both are there or none, and they are related. -/
def Paired (late : Nat → Nat → Prop) (old old' : Option Nat) : Prop :=
  old'.isSome = old.isSome ∧ ∀ x y, old = some x → old' = some y → late x y

section Paired

variable {late : Nat → Nat → Prop}

lemma paired_none : Paired late none none :=
  ⟨rfl, fun _ _ h => by cases h⟩

lemma paired_some {x y : Nat} (h : late x y) : Paired late (some x) (some y) := by
  refine ⟨rfl, fun x' y' hx hy => ?_⟩
  rwa [← Option.some.inj hx, ← Option.some.inj hy]

/-- The same edit at two times leaves related deadlines. -/
lemma Paired.deadlineAt {before later : Nat} {old old' : Option Nat} (h : Paired late old old')
    (hlate : ∀ life, late (deadlineAfter before life) (deadlineAfter later life)) (e : Edit)
    (d k : String) : Paired late (e.deadlineAt before d k old) (e.deadlineAt later d k old') := by
  cases e with
  | schedule db key life =>
    simp only [Edit.deadlineAt]
    split
    · exact paired_some (hlate life)
    · exact h
  | discard db key =>
    simp only [Edit.deadlineAt]
    split <;> [exact paired_none; exact h]
  | clear db key =>
    simp only [Edit.deadlineAt]
    split <;> [exact paired_none; exact h]
  | flush db =>
    simp only [Edit.deadlineAt]
    split <;> [exact paired_none; exact h]
  | flushAll => exact paired_none
  | ensure db => exact h
  | put db key value => exact h

lemma Paired.afterEdits {before later : Nat} {old old' : Option Nat} (h : Paired late old old')
    (hlate : ∀ life, late (deadlineAfter before life) (deadlineAfter later life))
    (edits : List Edit) (d k : String) :
    Paired late (deadlineAfterEdits before edits d k old)
      (deadlineAfterEdits later edits d k old') := by
  induction edits generalizing old old' with
  | nil => exact h
  | cons e rest ih => exact ih (h.deadlineAt hlate e d k)

end Paired

/-! ## Copies -/

/-- The second store is a copy of the first one but for the lost keys. -/
structure Follows (late : Nat → Nat → Prop) (now : Nat) (lost : String → String → Prop)
    (s t : Store) : Prop where
  /-- It holds the same values. -/
  value : ∀ d k, ¬ lost d k → t.value? d k = s.value? d k
  /-- The same keys have deadlines, which are related. -/
  paired : ∀ d k, ¬ lost d k → Paired late (s.deadline? d k) (t.deadline? d k)
  /-- A lost key is one of the store whose deadline has passed. -/
  held : ∀ d k, lost d k → s.has d k ∧ ∃ x, s.deadline? d k = some x ∧ x ≤ now
  /-- The copy has nothing of another type under it. -/
  kind : ∀ d k, lost d k → t.typeOf d k = .none ∨ t.typeOf d k = s.typeOf d k

namespace Follows

variable {late : Nat → Nat → Prop} {now : Nat} {lost : String → String → Prop} {s t : Store}

/-- What is lost stays lost as time passes. -/
lemma mono (h : Follows late now lost s t) {later : Nat} (hle : now ≤ later) :
    Follows late later lost s t where
  value := h.value
  paired := h.paired
  held := by
    intro d k hlost
    obtain ⟨hkey, x, hx, hpassed⟩ := h.held d k hlost
    exact ⟨hkey, x, hx, Nat.le_trans hpassed hle⟩
  kind := h.kind

/-- Only the values and the deadlines of either store matter. -/
lemma congr (h : Follows late now lost s t) {s' t' : Store} (hs : SameContents s s')
    (ht : SameContents t t') : Follows late now lost s' t' where
  value := by
    intro d k hkept
    rw [(hs d k).1, (ht d k).1, h.value d k hkept]
  paired := by
    intro d k hkept
    rw [(hs d k).2, (ht d k).2]
    exact h.paired d k hkept
  held := by
    intro d k hlost
    rw [has, (hs d k).1, (hs d k).2]
    exact h.held d k hlost
  kind := by
    intro d k hlost
    rw [typeOf, typeOf, (hs d k).1, (ht d k).1]
    exact h.kind d k hlost

end Follows

/-! ## Carrying out an operation again -/

namespace Follows

variable {late : Nat → Nat → Prop} {now : Nat} {lost : String → String → Prop} {s t : Store}

/-- An operation that reads no lost key makes the same edits on both. -/
lemma replay_same (h : Follows late now lost s t) {op : Operation} {pick : Nat} {db : String}
    {edits : List Edit} (hmade : op.outcome s pick db = .made op edits)
    (hreads : ∀ d k, op.reads db d k → ¬ lost d k) {before later : Nat}
    (hlate : ∀ life, late (deadlineAfter before life) (deadlineAfter later life)) :
    Follows late now (fun d k => lost d k ∧ ¬ op.settles db d k) (s.edit before edits)
      (t.edit later edits) := by
  have hframe : ∀ d k, lost d k → ¬ op.settles db d k →
      (∀ old, valueAfter edits d k old = old) ∧
        ∀ now old, deadlineAfterEdits now edits d k old = old :=
    fun d k hlost => Operation.made_frame hmade fun hread => hreads d k hread hlost
  have hpaired : ∀ d k, ¬ (lost d k ∧ ¬ op.settles db d k) →
      Paired late ((s.edit before edits).deadline? d k) ((t.edit later edits).deadline? d k) := by
    intro d k hkept
    rw [deadline?_edit, deadline?_edit]
    by_cases hsettles : op.settles db d k
    · obtain ⟨-, hdeadline⟩ := Operation.made_settles hmade hsettles
      rw [hdeadline, hdeadline]
      exact paired_none
    · exact (h.paired d k fun hlost => hkept ⟨hlost, hsettles⟩).afterEdits hlate edits d k
  constructor
  · intro d k hkept
    rw [value?_edit, value?_edit]
    by_cases hsettles : op.settles db d k
    · obtain ⟨⟨value, hvalue⟩, -⟩ := Operation.made_settles hmade hsettles
      rw [hvalue, hvalue]
    · rw [h.value d k fun hlost => hkept ⟨hlost, hsettles⟩]
  · exact hpaired
  · rintro d k ⟨hlost, hsettles⟩
    obtain ⟨hvalue, hdeadline⟩ := hframe d k hlost hsettles
    rw [has, value?_edit, deadline?_edit, hvalue, hdeadline]
    exact h.held d k hlost
  · rintro d k ⟨hlost, hsettles⟩
    obtain ⟨hvalue, -⟩ := hframe d k hlost hsettles
    rw [typeOf, typeOf, value?_edit, value?_edit, hvalue, hvalue]
    exact h.kind d k hlost

/-- After edits that first leave a key alone and then concern one key only, the key holds what it
held, or it is that one. -/
lemma value?_own (u : Store) (now : Nat) {common own : List Edit} {d k d' k' : String}
    {type : ValueType} (hcommon : ∀ old, valueAfter common d' k' old = old)
    (hown : Operation.Overwrites d k type own) :
    (u.edit now (common ++ own)).value? d' k' = u.value? d' k' ∨
      (d' = d ∧ k' = k ∧ ∃ value : Value, value.type = type ∧
        (u.edit now (common ++ own)).value? d' k' = some value) := by
  rw [value?_edit, valueAfter_append, hcommon]
  by_cases hsame : d' = d ∧ k' = k
  · obtain ⟨rfl, rfl⟩ := hsame
    rcases hown.value (u.value? d' k') with hkept | ⟨value, htype, hvalue⟩
    · exact .inl hkept
    · exact .inr ⟨rfl, rfl, value, htype, hvalue⟩
  · exact .inl ((hown.frame hsame).1 _)

/-- An operation that reads a lost key without needing it edits that key as it may, and all others
alike. -/
lemma replay_tolerated (h : Follows late now lost s t) {op : Operation} {pick : Nat} {db : String}
    {edits : List Edit} (hmade : op.outcome s pick db = .made op edits)
    (hneeds : ∀ d k, op.needs db d k → ¬ lost d k) (hsuited : op.Suited s db) {d k : String}
    (hread : op.reads db d k) (hlost : lost d k) {before later : Nat}
    (hlate : ∀ life, late (deadlineAfter before life) (deadlineAfter later life)) (pick' : Nat) :
    ∃ recorded edits', op.outcome t pick' db = .made recorded edits' ∧
      Follows late now lost (s.edit before edits) (t.edit later edits') := by
  have hnot : ¬ op.needs db d k := fun hneed => hneeds d k hneed hlost
  have hkey := (h.held d k hlost).1
  have htolerates := Operation.outcome_tolerates hmade hsuited hread hnot hkey (h.kind d k hlost)
    (fun d' k' hneed => h.value d' k' (hneeds d' k' hneed)) pick'
  cases hout : op.outcome t pick' db with
  | refused fault refusal =>
    rw [hout] at htolerates
    exact htolerates.elim
  | made recorded edits' =>
    rw [hout] at htolerates
    obtain ⟨common, own, own', rfl, rfl, hcommon, hown, hown'⟩ := htolerates
    refine ⟨recorded, common ++ own', rfl, ?_⟩
    -- The other lost keys are neither needed nor settled, so they are not touched at all.
    have hcommon' : ∀ d' k', lost d' k' → ∀ e ∈ common, ¬ e.touches d' k' := by
      intro d' k' hlost' e he ht
      have hfoot := Operation.outcome_touches hmade (List.mem_append_left own he) ht
      have hread' := (Operation.reads_or_settles hfoot).resolve_right
        (Operation.not_settles_of_reads hread hnot d' k')
      obtain ⟨rfl, rfl⟩ := Operation.reads_unique hread hnot hread'
        fun hneed => hneeds d' k' hneed hlost'
      exact hcommon e he ht
    have hfirst : ∀ d' k', lost d' k' →
        (∀ old, valueAfter common d' k' old = old) ∧
          ∀ now old, deadlineAfterEdits now common d' k' old = old :=
      fun d' k' hlost' => after_of_not_touches (hcommon' d' k' hlost')
    have hkept : ∀ d' k', ¬ lost d' k' → ¬ (d' = d ∧ k' = k) := by
      rintro d' k' hnotLost ⟨rfl, rfl⟩
      exact hnotLost hlost
    constructor
    · intro d' k' hnotLost
      have hother := hkept d' k' hnotLost
      rw [value?_edit, value?_edit, valueAfter_append, valueAfter_append,
        (hown.overwrites.frame hother).1, (hown'.frame hother).1, h.value d' k' hnotLost]
    · intro d' k' hnotLost
      have hother := hkept d' k' hnotLost
      rw [deadline?_edit, deadline?_edit, deadlineAfterEdits_append, deadlineAfterEdits_append,
        (hown.overwrites.frame hother).2, (hown'.frame hother).2]
      exact (h.paired d' k' hnotLost).afterEdits hlate common d' k'
    · intro d' k' hlost'
      obtain ⟨hkey', x, hx, hpassed⟩ := h.held d' k' hlost'
      refine ⟨?_, x, ?_, hpassed⟩
      · rw [has_iff]
        rcases value?_own s before (hfirst d' k' hlost').1 hown.overwrites with hsame | hnew
        · rw [hsame]
          exact (s.has_iff d' k').mp hkey'
        · obtain ⟨-, -, value, -, hvalue⟩ := hnew
          exact ⟨value, hvalue⟩
      · rw [deadline?_edit, deadlineAfterEdits_append, (hfirst d' k' hlost').2, hx]
        by_cases hsame : d' = d ∧ k' = k
        · obtain ⟨rfl, rfl⟩ := hsame
          exact hown.deadline before (some x)
        · exact (hown.overwrites.frame hsame).2 before (some x)
    · intro d' k' hlost'
      have htype : (s.edit before (common ++ own)).typeOf d' k' = s.typeOf d' k' := by
        rcases value?_own s before (hfirst d' k' hlost').1 hown.overwrites with hsame | hnew
        · rw [typeOf, hsame, typeOf]
        · obtain ⟨rfl, rfl, value, hvalue, hafter⟩ := hnew
          rw [typeOf, hafter, ← hvalue]
          rfl
      rw [htype]
      rcases value?_own t later (hfirst d' k' hlost').1 hown' with hsame | hnew
      · rw [typeOf, hsame, ← typeOf]
        exact h.kind d' k' hlost'
      · obtain ⟨rfl, rfl, value, hvalue, hafter⟩ := hnew
        rw [typeOf, hafter, ← hvalue]
        exact .inr rfl

/-- **An operation has the same effect on the copy**, as long as it needs no lost key. -/
theorem replay (h : Follows late now lost s t) {op : Operation} {pick : Nat} {db : String}
    {edits : List Edit} (hmade : op.outcome s pick db = .made op edits)
    (hneeds : ∀ d k, op.needs db d k → ¬ lost d k) (hsuited : op.Suited s db)
    {before later : Nat}
    (hlate : ∀ life, late (deadlineAfter before life) (deadlineAfter later life)) (pick' : Nat) :
    ∃ recorded edits', op.outcome t pick' db = .made recorded edits' ∧
      Follows late now (fun d k => lost d k ∧ ¬ op.settles db d k) (s.edit before edits)
        (t.edit later edits') := by
  by_cases hlost : ∃ d k, op.reads db d k ∧ lost d k
  · obtain ⟨d, k, hread, hlost⟩ := hlost
    have hkept : (fun d k => lost d k ∧ ¬ op.settles db d k) = lost := by
      funext d' k'
      have hnot := Operation.not_settles_of_reads hread (fun hneed => hneeds d k hneed hlost) d' k'
      simp [hnot]
    rw [hkept]
    exact h.replay_tolerated hmade hneeds hsuited hread hlost hlate pick'
  · have hreads : ∀ d k, op.reads db d k → ¬ lost d k :=
      fun d k hread hlostKey => hlost ⟨d, k, hread, hlostKey⟩
    refine ⟨op, edits, ?_, h.replay_same hmade hreads hlate⟩
    rw [Operation.outcome_congr (fun d k hread => h.value d k (hreads d k hread))
      fun d k hread => (h.paired d k (hreads d k hread)).1]
    exact Operation.outcome_recorded hmade pick'

end Follows

end ReplicatedStore.Store
