import Mathlib.Tactic.Common
import ReplicatedStore.Store.Keys

/-!
# What the steps of a store do to its contents

All that a client can see of a store is what each key holds (`Store.value?`) and when it ends
(`Store.deadline?`).  This file says how either changes in each of the steps that operations are
made of, so that later files never open the tables behind the two look-ups.

The counters of a store only move in `Store.commit`; the last section says how.

Times are told in ticks and in milliseconds; the first section says how these go over into each
other.
-/

open Std (ExtTreeMap ExtTreeSet)

namespace ReplicatedStore

namespace Clock

/-- Whole milliseconds come back from ticks as they were. -/
@[simp] lemma wholeMillis_ticks [Clock] (time : Nat) : wholeMillis (ticks time) = time :=
  Nat.mul_div_cancel time perMilli_pos

lemma wholeMillis_le [Clock] {passed time : Nat} (h : passed ≤ ticks time) :
    wholeMillis passed ≤ time :=
  Nat.le_trans (Nat.div_le_div_right h) (Nat.le_of_eq (wholeMillis_ticks time))

/-! By a clock that counts milliseconds a tick is one. -/

@[simp] lemma ticks_millis (time : Nat) : ticks time = time :=
  Nat.mul_one time

@[simp] lemma wholeMillis_millis (passed : Nat) : wholeMillis passed = passed :=
  Nat.div_one passed

end Clock

namespace Agenda

variable (a : Agenda) (db key d k : String) (t : Nat)

@[simp] lemma deadline?_empty : empty.deadline? db key = none := by
  simp [deadline?, empty]

/-- Clearing takes the deadline out of the table by key, whether there was one or not. -/
lemma deadline?_clear :
    (a.clear db key).deadline? d k = if d = db ∧ k = key then none else a.deadline? d k := by
  unfold clear
  split
  · rename_i hnone
    split
    · rename_i h
      rw [h.1, h.2, hnone]
    · rfl
  · simp only [deadline?, ExtTreeMap.getElem?_modify, Std.compare_eq_iff_eq]
    by_cases hd : db = d
    · subst hd
      by_cases hk : key = k
      · subst hk
        cases a.deadlines[db]? <;> simp
      · cases a.deadlines[db]? <;> simp [ExtTreeMap.getElem?_erase, hk, Ne.symm hk]
    · simp [hd, Ne.symm hd]

lemma deadline?_set :
    (a.set db key t).deadline? d k = if d = db ∧ k = key then some t else a.deadline? d k := by
  have hclear := a.deadline?_clear db key d k
  simp only [set, deadline?, ExtTreeMap.getElem?_alter, Std.compare_eq_iff_eq] at hclear ⊢
  by_cases hd : db = d
  · subst hd
    by_cases hk : key = k
    · simp [hk]
    · simp only [true_and, Ne.symm hk, if_false] at hclear
      cases h : (a.clear db key).deadlines[db]? <;>
        simp [ExtTreeMap.getElem?_insert, hk, Ne.symm hk, h, ← hclear]
  · simp only [Ne.symm hd, false_and, if_false] at hclear
    simp [hd, Ne.symm hd, hclear]

lemma deadline?_clearDatabase :
    (a.clearDatabase db).deadline? d k = if d = db then none else a.deadline? d k := by
  simp only [clearDatabase, deadline?, ExtTreeMap.getElem?_erase, Std.compare_eq_iff_eq]
  by_cases hd : db = d <;> simp [hd, eq_comm]

end Agenda

namespace Store

variable (s : Store) (db key d k : String) (v : Value) (t : Nat)

/-! ## What keys hold -/

@[simp] lemma value?_ensure : (s.ensure db).value? d k = s.value? d k := by
  simp only [ensure, value?, ExtTreeMap.getElem?_insertIfNew, Std.compare_eq_iff_eq]
  by_cases h : db = d ∧ db ∉ s.databases
  · have hnone : s.databases[d]? = none := by
      rw [← h.1]
      exact ExtTreeMap.getElem?_eq_none h.2
    simp [h, hnone]
  · simp [h]

lemma value?_put :
    (s.put db key v).value? d k = if d = db ∧ k = key then some v else s.value? d k := by
  simp only [put, value?, ExtTreeMap.getElem?_alter, Std.compare_eq_iff_eq]
  by_cases hd : db = d
  · subst hd
    by_cases hk : key = k
    · simp [hk]
    · cases s.databases[db]? <;> simp [ExtTreeMap.getElem?_insert, hk, Ne.symm hk]
  · simp [hd, Ne.symm hd]

lemma value?_drop :
    (s.drop db key).value? d k = if d = db ∧ k = key then none else s.value? d k := by
  simp only [drop, value?, ExtTreeMap.getElem?_modify, Std.compare_eq_iff_eq]
  by_cases hd : db = d
  · subst hd
    by_cases hk : key = k
    · cases s.databases[db]? <;> simp [hk]
    · cases s.databases[db]? <;> simp [ExtTreeMap.getElem?_erase, hk, Ne.symm hk]
  · simp [hd, Ne.symm hd]

@[simp] lemma value?_clearDeadline : (s.clearDeadline db key).value? d k = s.value? d k := rfl

@[simp] lemma value?_setDeadline : (s.setDeadline db key t).value? d k = s.value? d k := rfl

lemma value?_discard :
    (s.discard db key).value? d k = if d = db ∧ k = key then none else s.value? d k := by
  rw [discard, value?_drop, value?_clearDeadline]

/-- A key exists exactly when it holds something. -/
lemma has_iff : s.has db key = true ↔ ∃ value, s.value? db key = some value := by
  simp [has, Option.isSome_iff_exists]

/-! ## When keys end -/

@[simp] lemma deadline?_ensure : (s.ensure db).deadline? d k = s.deadline? d k := rfl

@[simp] lemma deadline?_put : (s.put db key v).deadline? d k = s.deadline? d k := rfl

@[simp] lemma deadline?_drop : (s.drop db key).deadline? d k = s.deadline? d k := rfl

lemma deadline?_clearDeadline :
    (s.clearDeadline db key).deadline? d k =
      if d = db ∧ k = key then none else s.deadline? d k :=
  s.agenda.deadline?_clear db key d k

lemma deadline?_setDeadline :
    (s.setDeadline db key t).deadline? d k =
      if d = db ∧ k = key then some t else s.deadline? d k :=
  s.agenda.deadline?_set db key d k t

/-- Where the table of every database is empty, no key has a deadline. -/
lemma deadline?_of_all_isEmpty {s : Store}
    (h : s.agenda.deadlines.toList.all fun entry => entry.2.isEmpty) (d k : String) :
    s.deadline? d k = none := by
  unfold deadline? Agenda.deadline?
  cases hkeys : s.agenda.deadlines[d]? with
  | none => rfl
  | some keys =>
    have hmem := ExtTreeMap.mem_toList_iff_getElem?_eq_some.mpr hkeys
    have hempty : keys.isEmpty := List.all_eq_true.mp h _ hmem
    rw [ExtTreeMap.isEmpty_iff] at hempty
    rw [hempty]
    simp

lemma deadline?_discard :
    (s.discard db key).deadline? d k =
      if d = db ∧ k = key then none else s.deadline? d k := by
  rw [discard, deadline?_drop, deadline?_clearDeadline]

/-! ## Steps that change nothing -/

section Unchanged

variable {s : Store} {db key : String}

lemma ensure_of_mem (h : db ∈ s.databases) : s.ensure db = s := by
  have hsame : s.databases.insertIfNew db ∅ = s.databases := by
    refine ExtTreeMap.ext_getElem? fun d => ?_
    rw [ExtTreeMap.getElem?_insertIfNew, if_neg (fun hnew => hnew.2 h)]
  rw [ensure, hsame]

lemma put_of_held {value : Value} (h : s.value? db key = some value) :
    s.put db key value = s := by
  obtain ⟨keys, hkeys, hkey⟩ := Option.bind_eq_some_iff.mp h
  have hinner : keys.insert key value = keys := by
    refine ExtTreeMap.ext_getElem? fun k => ?_
    rw [ExtTreeMap.getElem?_insert]
    split
    · rename_i heq
      rw [← Std.LawfulEqCmp.compare_eq_iff_eq.mp heq, hkey]
    · rfl
  have hsame : (s.databases.alter db fun keys => some ((keys.getD ∅).insert key value)) =
      s.databases := by
    refine ExtTreeMap.ext_getElem? fun d => ?_
    rw [ExtTreeMap.getElem?_alter]
    split
    · rename_i heq
      rw [← Std.LawfulEqCmp.compare_eq_iff_eq.mp heq, hkeys, Option.getD_some, hinner]
    · rfl
  rw [put, hsame]

lemma drop_of_missing (h : s.value? db key = none) : s.drop db key = s := by
  have hsame : s.databases.modify db (·.erase key) = s.databases := by
    refine ExtTreeMap.ext_getElem? fun d => ?_
    rw [ExtTreeMap.getElem?_modify]
    split
    · rename_i heq
      obtain rfl := Std.LawfulEqCmp.compare_eq_iff_eq.mp heq
      cases hkeys : s.databases[db]? with
      | none => rfl
      | some keys =>
        have hmissing : keys[key]? = none := by
          rwa [value?, hkeys, Option.bind_some] at h
        have hinner : keys.erase key = keys := by
          refine ExtTreeMap.ext_getElem? fun k => ?_
          rw [ExtTreeMap.getElem?_erase]
          split
          · rename_i heq
            rw [← Std.LawfulEqCmp.compare_eq_iff_eq.mp heq, hmissing]
          · rfl
        rw [Option.map_some, hinner]
    · rfl
  rw [drop, hsame]

end Unchanged

/-! ## Committing -/

section Commit

variable (command : String) (args : List Bytes) (c : Change)

@[simp] lemma databases_record : (s.record c).databases = s.databases := by
  unfold record; split <;> rfl

@[simp] lemma agenda_record : (s.record c).agenda = s.agenda := by
  unfold record; split <;> rfl

@[simp] lemma revision_record : (s.record c).revision = s.revision := by
  unfold record; split <;> rfl

@[simp] lemma recording_record : (s.record c).journal.recording = s.journal.recording := by
  unfold record; split <;> rfl

@[simp] lemma authority_record : (s.record c).authority = s.authority := by
  unfold record; split <;> rfl

@[simp] lemma changeOperations_record : (s.record c).changeOperations = s.changeOperations := by
  unfold record; split <;> rfl

lemma pending_record :
    (s.record c).journal.pending =
      s.journal.pending ++ if s.journal.recording then [c] else [] := by
  unfold record; split <;> simp_all

@[simp] lemma databases_commit : (s.commit db command args).databases = s.databases := by
  simp [commit]

@[simp] lemma agenda_commit : (s.commit db command args).agenda = s.agenda := by
  simp [commit]

@[simp] lemma value?_commit : (s.commit db command args).value? d k = s.value? d k := by
  simp [value?]

@[simp] lemma deadline?_commit : (s.commit db command args).deadline? d k = s.deadline? d k := by
  simp [deadline?]

@[simp] lemma revision_commit : (s.commit db command args).revision = s.revision + 1 := by
  simp [commit]

@[simp] lemma recording_commit :
    (s.commit db command args).journal.recording = s.journal.recording := by
  simp [commit]

@[simp] lemma authority_commit : (s.commit db command args).authority = s.authority := by
  simp [commit]

@[simp] lemma changeOperations_commit :
    (s.commit db command args).changeOperations = s.changeOperations + 1 := by
  simp [commit]

/-- A commit records its change, with the version it produces, while the journal records. -/
lemma pending_commit :
    (s.commit db command args).journal.pending =
      s.journal.pending ++
        if s.journal.recording then [⟨db, command, args, some (s.revision + 1)⟩] else [] := by
  rw [commit, pending_record]

end Commit

end Store

end ReplicatedStore
