import ReplicatedStore.Proofs.Store.Action

/-!
# What a refused operation leaves

A refused operation counts nothing and records nothing, and of the contents of the store it changes
at most one thing: renaming a key that does not exist makes the database of the key exist, and a
move that fails makes the database it should have moved to exist.  `Operation.refusal_leaves` says
so of every operation at once, with the exact condition under which the store is the same as before,
and of a snapshot that cannot be read.
-/

namespace ReplicatedStore

namespace Operation

/-- The database that the operation on `db` makes exist although it is refused with the fault. -/
def opens? (db : String) : Operation → StoreError → Option String
  | .rename _ _, .missing _ | .renameNew _ _, .missing _ => some db
  | .move _ target, _ => some target
  | _, _ => none

/-- The store after a refusal that opens a database or none. -/
def opened (s : Store) : Option String → Store
  | some db => s.ensure db
  | none => s

variable {s : Store} {pick : Nat} {db : String} {fault : StoreError}

/-- The edits of a refusal open that one database. -/
lemma edit_refused {op : Operation} {edits : List Store.Edit} (now : Nat)
    (h : op.outcome s pick db = .refused fault edits) :
    s.edit now edits = opened s (op.opens? db fault) := by
  cases op <;> simp only [outcome, refusing] at h
  all_goals repeat' split at h
  all_goals cases h
  all_goals rfl

/-- Opening a database shows exactly when there was none of that name. -/
lemma opened_eq_self_iff (opening : Option String) :
    opened s opening = s ↔ ∀ d, opening = some d → d ∈ s.databases := by
  cases opening with
  | none => simp [opened]
  | some d =>
    constructor
    · intro hsame e he
      obtain rfl : d = e := Option.some.inj he
      have hmade : d ∈ (s.ensure d).databases := by simp [Store.ensure]
      have hstore : s.ensure d = s := hsame
      rwa [hstore] at hmade
    · intro hheld
      exact Store.ensure_of_mem (hheld d rfl)

end Operation

/-- A snapshot that cannot be read leaves the store as it is. -/
lemma Store.replace_refused {s left : Store} {now wall version : Nat} {data : Bytes}
    {fault : StoreError} (h : s.replace now wall version data = (.error fault, left)) :
    left = s := by
  unfold Store.replace at h
  cases hread : Snapshot.decode data with
  | error e =>
    rw [hread] at h
    exact (congrArg Prod.snd h).symm
  | ok snapshot =>
    rw [hread] at h
    cases congrArg Prod.fst h

/-- **What a refusal leaves.**  A refused operation leaves the store with at most one database more,
the one it opens.  So the store is the same as before, in its databases, values, deadlines, version,
counters, flag and journal, exactly when that database existed or there is none.  A refused snapshot
always leaves the store as it was. -/
theorem Operation.refusal_leaves (s : Store) (now pick wall version : Nat) (db : String)
    (op : Operation) (data : Bytes) :
    (∀ fault left, op.perform s now pick db = (.error fault, left) →
      left = opened s (op.opens? db fault) ∧
        (left = s ↔ ∀ d, op.opens? db fault = some d → d ∈ s.databases)) ∧
      ∀ fault left, s.replace now wall version data = (.error fault, left) → left = s := by
  refine ⟨fun fault left h => ?_, fun fault left h => Store.replace_refused h⟩
  rcases perform_cases s now pick db op with
    ⟨found, edits, hout, hresult⟩ | ⟨recorded, edits, answer, -, hresult⟩
  · have hends : (Except.error found, s.edit now edits) = (Except.error fault, left) :=
      hresult.symm.trans h
    obtain ⟨rfl, rfl⟩ : found = fault ∧ s.edit now edits = left := by simpa using hends
    rw [edit_refused now hout]
    exact ⟨rfl, opened_eq_self_iff _⟩
  · have hends := hresult.symm.trans h
    cases congrArg Prod.fst hends

/-- A move into a database that exists, of a key that does not, and a snapshot without a byte. -/
theorem Operation.refusal_leaves_moving :
    let s := Store.new true
    let result := (move "a" "0").perform s 0 0 "9"
    result = (.error (.notKnown "a" "9"), result.2) ∧ result.2 = s ∧
      (s.replace 0 0 7 []).2 = s := by
  intro s result
  have hresult : result = (.error (.notKnown "a" "9"), result.2) := rfl
  have hread : (s.replace 0 0 7 []).1 = .error (.snapshot .unexpectedEnd) := by decide +kernel
  obtain ⟨hmove, hreplace⟩ := refusal_leaves s 0 0 0 7 "9" (move "a" "0") []
  refine ⟨hresult, (hmove _ _ hresult).2.mpr ?_, hreplace _ _ (Prod.ext hread rfl)⟩
  intro d hd
  obtain rfl : "0" = d := Option.some.inj hd
  decide +kernel

/-- Not every refused operation leaves the store as it was: renaming a key in a database that does
not exist makes the database. -/
theorem Operation.not_refusal_leaves_unchanged :
    ¬ ∀ (s : Store) (now pick : Nat) (db : String) (op : Operation) (fault : StoreError)
      (left : Store), s.Reachable → op.perform s now pick db = (.error fault, left) → left = s := by
  intro hunchanged
  have hsame : ((rename "a" "b").perform (Store.new true) 0 0 "9").2 = Store.new true :=
    hunchanged _ 0 0 "9" (rename "a" "b") (.missing "a") _ (.new true) rfl
  have hmade : "9" ∈ ((rename "a" "b").perform (Store.new true) 0 0 "9").2.databases := by
    decide +kernel
  rw [hsame] at hmade
  revert hmade
  decide +kernel

end ReplicatedStore
