import ReplicatedStore.Proofs.Store.Step

/-!
# What the removal of ended keys does

A pass takes out the keys whose deadline is not after its time, and no other (`expirePass_keys`).
On a replica it leaves no trace but the missing keys (`expirePass_replica`); on the authority every
removal is a step of its own, which is recorded (`expirePass_authority`).
-/

namespace ReplicatedStore

/-! ## Which keys have ended -/

lemma Ending.deadline_le_of_order {a b : Ending} (h : Ending.order a b = .lt) :
    a.deadline ≤ b.deadline := by
  unfold Ending.order compareLex compareOn at h
  rcases Ordering.then_eq_lt.mp h with hlt | ⟨heq, -⟩
  · exact Nat.le_of_lt (Nat.compare_eq_lt.mp hlt)
  · exact Nat.le_of_eq (Nat.compare_eq_eq.mp heq)

/-- In the order in which keys end, those that have ended stand first. -/
lemma Ending.mem_takeWhile {endings : List Ending} (h : endings.Pairwise fun a b => order a b = .lt)
    (now : Nat) (e : Ending) :
    e ∈ endings.takeWhile (fun ending => ending.deadline ≤ now) ↔
      e ∈ endings ∧ e.deadline ≤ now := by
  induction endings with
  | nil => simp
  | cons first rest ih =>
    obtain ⟨hfirst, hrest⟩ := List.pairwise_cons.mp h
    by_cases hended : first.deadline ≤ now
    · rw [List.takeWhile_cons_of_pos (by simpa using hended), List.mem_cons, List.mem_cons,
        ih hrest]
      constructor
      · rintro (rfl | ⟨hmem, hle⟩)
        · exact ⟨.inl rfl, hended⟩
        · exact ⟨.inr hmem, hle⟩
      · rintro ⟨rfl | hmem, hle⟩
        · exact .inl rfl
        · exact .inr ⟨hmem, hle⟩
    · rw [List.takeWhile_cons_of_neg (by simpa using hended)]
      refine ⟨fun hmem => absurd hmem (List.not_mem_nil), ?_⟩
      rintro ⟨hmem, hle⟩
      rcases List.mem_cons.mp hmem with rfl | hlater
      · exact absurd hle hended
      · have hle' := Ending.deadline_le_of_order (hfirst e hlater)
        omega

/-- The endings that are due are the deadlines that are not after `now`. -/
lemma Agenda.Indexed.mem_due {a : Agenda} (h : a.Indexed) {now t : Nat} {d k : String} :
    ⟨t, d, k⟩ ∈ a.due now ↔ a.deadline? d k = some t ∧ t ≤ now := by
  rw [Agenda.due, Ending.mem_takeWhile Std.ExtTreeSet.ordered_toList, Std.ExtTreeSet.mem_toList,
    h t d k]

namespace Store

/-! ## What a pass takes out -/

/-- The edits that take out the keys that have ended. -/
def endingEdits (endings : List Ending) : List Edit :=
  endings.map fun e => .discard e.db e.key

/-- On every node the end of a key takes it out. -/
lemma sameContents_endKey (s : Store) (e : Ending) :
    SameContents (s.discard e.db e.key) (s.endKey e) := by
  by_cases hauthority : s.authority
  · rw [endKey, if_pos hauthority]
    exact (s.discard e.db e.key).sameContents_commit e.db "del" [Bytes.ofText e.key]
  · rw [endKey_of_not_authority hauthority]
    exact .refl _

lemma sameContents_endKeys (s : Store) (endings : List Ending) :
    SameContents (s.edit 0 (endingEdits endings)) (endings.foldl endKey s) := by
  induction endings generalizing s with
  | nil => exact .refl s
  | cons e rest ih =>
    have hrest := (s.sameContents_endKey e).edit 0 (endingEdits rest)
    exact hrest.trans (ih (s.endKey e))

/-- **A pass** takes out the keys that have ended, and no others. -/
theorem expirePass_keys {s : Store} (htidy : s.Tidy) (now : Nat) (d k : String) :
    ((∃ t, s.deadline? d k = some t ∧ t ≤ now) → (s.expirePass now).2.value? d k = none ∧
      (s.expirePass now).2.deadline? d k = none) ∧
    ((∀ t, s.deadline? d k = some t → now < t) →
      (s.expirePass now).2.value? d k = s.value? d k ∧
        (s.expirePass now).2.deadline? d k = s.deadline? d k) := by
  obtain ⟨hpassValue, hpassDeadline⟩ := s.sameContents_endKeys (s.agenda.due now) d k
  rw [value?_edit] at hpassValue
  rw [deadline?_edit] at hpassDeadline
  constructor
  · rintro ⟨t, hdeadline, hle⟩
    have hall : ∀ e ∈ endingEdits (s.agenda.due now), ∃ d' k', e = .discard d' k' := by
      intro e he
      obtain ⟨ending, -, rfl⟩ := List.mem_map.mp he
      exact ⟨_, _, rfl⟩
    have hmem : Edit.discard d k ∈ endingEdits (s.agenda.due now) :=
      List.mem_map.mpr ⟨⟨t, d, k⟩, htidy.indexed.mem_due.mpr ⟨hdeadline, hle⟩, rfl⟩
    obtain ⟨hvalue, hnone⟩ := Operation.after_discards hall hmem
    exact ⟨hpassValue.trans (hvalue _), hpassDeadline.trans (hnone 0 _)⟩
  · intro hlasting
    have hkept : ∀ e ∈ endingEdits (s.agenda.due now), ¬ e.touches d k := by
      intro e he ht
      obtain ⟨⟨t, d', k'⟩, hending, rfl⟩ := List.mem_map.mp he
      obtain ⟨rfl, rfl⟩ := ht
      obtain ⟨hdeadline, hle⟩ := htidy.indexed.mem_due.mp hending
      have hlast := hlasting t hdeadline
      omega
    obtain ⟨hvalue, hdeadline⟩ := after_of_not_touches hkept
    exact ⟨hpassValue.trans (hvalue _), hpassDeadline.trans (hdeadline 0 _)⟩

/-! ## The pass on a replica -/

/-- **A pass on a replica** leaves no trace but the missing keys. -/
theorem expirePass_replica {s : Store} (h : ¬ s.authority) (now : Nat) :
    SameCounters s (s.expirePass now).2 := by
  have hall : ∀ (endings : List Ending) (s : Store), ¬ s.authority →
      SameCounters s (endings.foldl endKey s) := by
    intro endings
    induction endings with
    | nil => exact fun s _ => ⟨rfl, rfl, rfl, rfl⟩
    | cons e rest ih =>
      intro s hreplica
      have hfirst : SameCounters s (s.endKey e) := by
        rw [endKey_of_not_authority hreplica]
        exact ⟨rfl, rfl, rfl, rfl⟩
      refine hfirst.trans (ih (s.endKey e) ?_)
      rwa [authority_endKey]
  exact hall _ s h

/-- A copy whose deadlines are not before those of the store follows it still after a pass, which
adds the keys that it takes out to those that are lost. -/
theorem Follows.expirePass {s t : Store} {now : Nat} {lost : String → String → Prop}
    (h : s.Follows (· ≤ ·) now lost t) (htidy : t.Tidy) :
    s.Follows (· ≤ ·) now (fun d k => lost d k ∨ ∃ x, t.deadline? d k = some x ∧ x ≤ now)
      (t.expirePass now).2 := by
  have hkeys := fun d k => expirePass_keys htidy now d k
  have hlasting : ∀ d k, (¬ ∃ x, t.deadline? d k = some x ∧ x ≤ now) →
      (t.expirePass now).2.value? d k = t.value? d k ∧
        (t.expirePass now).2.deadline? d k = t.deadline? d k := by
    intro d k hkept
    refine (hkeys d k).2 fun x hx => ?_
    by_contra hended
    exact hkept ⟨x, hx, Nat.not_lt.mp hended⟩
  constructor
  · intro d k hkept
    obtain ⟨hnotLost, hnotEnded⟩ := not_or.mp hkept
    rw [(hlasting d k hnotEnded).1, h.value d k hnotLost]
  · intro d k hkept
    obtain ⟨hnotLost, hnotEnded⟩ := not_or.mp hkept
    rw [(hlasting d k hnotEnded).2]
    exact h.paired d k hnotLost
  · intro d k hlost
    by_cases hold : lost d k
    · exact h.held d k hold
    · -- The deadline of the copy is not before that of the store.
      obtain ⟨y, hy, hended⟩ := hlost.resolve_left hold
      obtain ⟨hboth, hlate⟩ := h.paired d k hold
      rw [hy, Option.isSome_some, eq_comm, Option.isSome_iff_exists] at hboth
      obtain ⟨x, hx⟩ := hboth
      have hkey := htidy.held d k y hy
      rw [has, h.value d k hold] at hkey
      exact ⟨hkey, x, hx, Nat.le_trans (hlate x y hx hy) hended⟩
  · intro d k hlost
    by_cases hended : ∃ x, t.deadline? d k = some x ∧ x ≤ now
    · refine .inl ?_
      rw [typeOf, ((hkeys d k).1 hended).1]
      rfl
    · rw [typeOf, (hlasting d k hended).1]
      exact h.kind d k (hlost.resolve_right hended)

/-! ## The pass on the authority -/

/-- **A pass on the authority** records the removal of every key that it takes out. -/
theorem expirePass_authority {s : Store} (h : s.authority) (now : Nat) :
    Progress now s (s.expirePass now).2 := by
  have hall : ∀ (endings : List Ending) (s : Store), s.authority →
      Progress now s (endings.foldl endKey s) := by
    intro endings
    induction endings with
    | nil => exact fun s _ => .refl now s
    | cons e rest ih =>
      intro s hauthority
      have hfirst : Progress now s (s.endKey e) := by
        rw [endKey_of_authority hauthority]
        refine ⟨s.authority_perform 0 (.remove [e.key]) 0 e.db, _,
          (s.perform_step 0 (.remove [e.key]) 0 e.db ?_ trivial).trail (Nat.zero_le now),
          s.perform_commits 0 (.remove [e.key]) 0 e.db⟩
        exact List.cons_ne_nil _ _
      refine hfirst.trans (ih (s.endKey e) ?_)
      rwa [authority_endKey]
  exact hall _ s h

end Store

end ReplicatedStore
