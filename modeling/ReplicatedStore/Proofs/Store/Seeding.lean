import ReplicatedStore.Proofs.Store.Frame

/-!
# What a seed leaves in a store

A seed is loaded entry by entry.  A key that it gives values to ends up with the last of them, as a
string that does not end, and every other key is left alone.  All databases that it names exist
afterwards.  Each value counts as a change operation, and the whole seed as one version
(`Store.seeded_loadSeed`).
-/

open Std (ExtTreeMap)

namespace ReplicatedStore

namespace SeedEntry

/-- Does the entry give a key a value? -/
def isValue : SeedEntry → Bool
  | .select _ => false
  | .value _ _ _ => true

/-- The database that the entry names. -/
def database : SeedEntry → String
  | .select db => db
  | .value db _ _ => db

end SeedEntry

namespace Store

/-- The store `s` was filled with the entries of a seed, and this left `t`. -/
structure Seeded (s : Store) (entries : List SeedEntry) (t : Store) : Prop where
  /-- A key holds the last value that it is given, as a string, and does not end. -/
  last : ∀ before db key data after, entries = before ++ .value db key data :: after →
    (∀ other, SeedEntry.value db key other ∉ after) →
      t.value? db key = some (.string data) ∧ t.deadline? db key = none
  /-- Every other key is as it was. -/
  others : ∀ db key, (∀ data, SeedEntry.value db key data ∉ entries) →
    t.value? db key = s.value? db key ∧ t.deadline? db key = s.deadline? db key
  /-- The databases that are named have come to those that there were. -/
  databases : ∀ db, db ∈ t.databases ↔ db ∈ s.databases ∨ ∃ entry ∈ entries, entry.database = db
  /-- The seed is one change. -/
  revision : t.revision = s.revision + 1
  /-- Every value is a change operation. -/
  changeOperations : t.changeOperations = s.changeOperations + entries.countP SeedEntry.isValue

variable (s : Store)

/-! ## Contents -/

/-- What follows the last value of a key does not touch it. -/
lemma loadSeed_last {before after : List SeedEntry} {db key : String} {data : Bytes}
    (hlast : ∀ other, SeedEntry.value db key other ∉ after) :
    (s.loadSeed (before ++ .value db key data :: after)).value? db key = some (.string data) ∧
      (s.loadSeed (before ++ .value db key data :: after)).deadline? db key = none := by
  obtain ⟨hvalue, hdeadline⟩ := after_of_not_touches (seed_not_touches hlast)
  obtain ⟨hwritten, hcleared⟩ := Operation.after_overwriting db key (.string data)
  obtain ⟨hsame, hends⟩ := s.sameContents_loadSeed (before ++ .value db key data :: after) db key
  rw [value?_edit, List.flatMap_append, List.flatMap_cons, SeedEntry.edits, valueAfter_append,
    valueAfter_append, hwritten, hvalue] at hsame
  rw [deadline?_edit, List.flatMap_append, List.flatMap_cons, SeedEntry.edits,
    deadlineAfterEdits_append, deadlineAfterEdits_append, hcleared, hdeadline] at hends
  exact ⟨hsame, hends⟩

/-! ## Databases -/

lemma mem_databases_loadEntry (entry : SeedEntry) (db : String) :
    db ∈ (s.loadEntry entry).databases ↔ db ∈ s.databases ∨ entry.database = db := by
  cases entry with
  | select name =>
    show db ∈ s.databases.insertIfNew name ∅ ↔ _
    rw [ExtTreeMap.mem_insertIfNew, Std.LawfulEqCmp.compare_eq_iff_eq, or_comm]
    rfl
  | value name key data =>
    show db ∈ s.databases.alter name _ ↔ _
    rw [ExtTreeMap.mem_alter]
    split
    · rename_i hname
      obtain rfl := Std.LawfulEqCmp.compare_eq_iff_eq.mp hname
      simp [SeedEntry.database]
    · rename_i hname
      have hother : name ≠ db := fun hsame => hname (by rw [hsame]; exact Std.ReflCmp.compare_self)
      simp [SeedEntry.database, hother]

lemma mem_databases_loadSeed (entries : List SeedEntry) (db : String) :
    db ∈ (s.loadSeed entries).databases ↔
      db ∈ s.databases ∨ ∃ entry ∈ entries, entry.database = db := by
  have hfold : db ∈ (entries.foldl loadEntry s).databases ↔
      db ∈ s.databases ∨ ∃ entry ∈ entries, entry.database = db := by
    induction entries generalizing s with
    | nil => simp
    | cons entry rest ih =>
      rw [List.foldl_cons, ih, mem_databases_loadEntry, or_assoc]
      simp only [List.mem_cons, exists_eq_or_imp]
  exact hfold

/-! ## Counters -/

/-- A seed counts every value that it gives. -/
lemma changeOperations_loadSeed (entries : List SeedEntry) :
    (s.loadSeed entries).changeOperations =
      s.changeOperations + entries.countP SeedEntry.isValue := by
  have hfold : (entries.foldl loadEntry s).changeOperations =
      s.changeOperations + entries.countP SeedEntry.isValue := by
    induction entries generalizing s with
    | nil => rfl
    | cons entry rest ih =>
      rw [List.foldl_cons, ih, List.countP_cons]
      cases entry with
      | select db => rfl
      | value db key data =>
        show s.changeOperations + 1 + _ = s.changeOperations + (_ + 1)
        omega
  exact hfold

lemma revision_loadSeed (entries : List SeedEntry) :
    (s.loadSeed entries).revision = s.revision + 1 := by
  have hfold : (entries.foldl loadEntry s).revision = s.revision := by
    induction entries generalizing s with
    | nil => rfl
    | cons entry rest ih =>
      rw [List.foldl_cons, ih]
      cases entry <;> rfl
  exact congrArg (· + 1) hfold

/-- **Filling a store with a seed.** -/
theorem seeded_loadSeed (entries : List SeedEntry) : s.Seeded entries (s.loadSeed entries) where
  last := by
    rintro before db key data after rfl hlast
    exact s.loadSeed_last hlast
  others _ _ hnone := s.loadSeed_frame hnone
  databases := s.mem_databases_loadSeed entries
  revision := s.revision_loadSeed entries
  changeOperations := s.changeOperations_loadSeed entries

end Store

end ReplicatedStore
