import ReplicatedStore.Proofs.Store.Action

/-!
# The two tables of deadlines

A store keeps every deadline twice: by database and key, and in one agenda in the order in which
deadlines come.  Some thirty operations write to one table or the other, to the values or to all
three.  This file proves that they never come apart: in every store that any sequence of actions
reaches, at any readings of the clock, the agenda lists exactly the deadlines of the table
(`Agenda.Indexed`), no deadline outlives its key, and the default database exists
(`Tidy`, `Reachable.tidy`).

An edit keeps a store tidy as long as deadlines are only given to keys that exist
(`Tidy.edit`); every operation makes such edits (`outcome_schedules`), and what is not an operation
is treated on its own: restoring a snapshot, loading a seed and the pass that ends keys.
-/

open Std (ExtTreeMap ExtTreeSet)

namespace ReplicatedStore

namespace Agenda

/-- The agenda lists a deadline of a key exactly when the table has it. -/
def Indexed (a : Agenda) : Prop :=
  ∀ t db key, ⟨t, db, key⟩ ∈ a.endings ↔ a.deadline? db key = some t

lemma indexed_empty : empty.Indexed := by
  intro t db key
  simp [empty, deadline?]

lemma Indexed.clear {a : Agenda} (h : a.Indexed) (db key : String) :
    (a.clear db key).Indexed := by
  intro t d k
  rw [deadline?_clear]
  unfold Agenda.clear
  cases hold : a.deadline? db key with
  | none =>
    dsimp only
    rw [h t d k]
    split
    · rename_i heq
      rw [heq.1, heq.2, hold]
    · rfl
  | some old =>
    simp only [ExtTreeSet.mem_erase, ne_eq, Std.LawfulEqCmp.compare_eq_iff_eq, h t d k,
      Ending.mk.injEq]
    by_cases heq : d = db ∧ k = key
    · obtain ⟨rfl, rfl⟩ := heq
      simp only [and_self, and_true, if_true, hold, Option.some.injEq, reduceCtorEq, iff_false,
        not_and]
      exact fun hne hsame => hne hsame
    · rw [if_neg heq]
      constructor
      · exact And.right
      · intro hat
        exact ⟨fun hsame => heq ⟨hsame.2.1.symm, hsame.2.2.symm⟩, hat⟩

lemma Indexed.set {a : Agenda} (h : a.Indexed) (db key : String) (deadline : Nat) :
    (a.set db key deadline).Indexed := by
  intro t d k
  have hcleared := h.clear db key t d k
  rw [deadline?_clear] at hcleared
  rw [deadline?_set]
  simp only [Agenda.set, ExtTreeSet.mem_insert, Std.LawfulEqCmp.compare_eq_iff_eq,
    Ending.mk.injEq, hcleared]
  by_cases heq : d = db ∧ k = key
  · simp [heq]
  · rw [if_neg heq, if_neg heq]
    constructor
    · rintro (hsame | hat)
      · exact absurd ⟨hsame.2.1.symm, hsame.2.2.symm⟩ heq
      · exact hat
    · exact Or.inr

lemma Indexed.clearDatabase {a : Agenda} (h : a.Indexed) (db : String) :
    (a.clearDatabase db).Indexed := by
  intro t d k
  rw [deadline?_clearDatabase]
  have hmem : (⟨t, d, k⟩ : Ending) ∈ (a.clearDatabase db).endings ↔
      d ≠ db ∧ (⟨t, d, k⟩ : Ending) ∈ a.endings := by
    simp [Agenda.clearDatabase, ExtTreeSet.mem_filter, and_comm]
  rw [hmem, h t d k]
  by_cases heq : d = db <;> simp [heq]

end Agenda

namespace Store

/-- What holds of every store between two actions. -/
structure Tidy (s : Store) : Prop where
  /-- The agenda lists exactly the deadlines of the table. -/
  indexed : s.agenda.Indexed
  /-- A key that has a deadline exists. -/
  held : ∀ db key t, s.deadline? db key = some t → s.has db key
  /-- The default database exists. -/
  default_mem : defaultDatabase ∈ s.databases

lemma Tidy.congr {s t : Store} (h : s.Tidy) (hdatabases : t.databases = s.databases)
    (hagenda : t.agenda = s.agenda) : t.Tidy where
  indexed := hagenda ▸ h.indexed
  held := by
    intro db key d hd
    have := h.held db key d (by rwa [deadline?, ← hagenda])
    rwa [has, value?, ← hdatabases] at this
  default_mem := hdatabases ▸ h.default_mem

lemma tidy_new (authority : Bool) : (new authority).Tidy where
  indexed := Agenda.indexed_empty
  held := by
    intro db key t h
    simp [deadline?, new] at h
  default_mem := by simp [new, ExtTreeMap.ofList_singleton]

/-! ## Edits -/

/-- Does the edit give a key a deadline? -/
def Edit.schedules : Edit → Bool
  | .schedule _ _ _ => true
  | _ => false

lemma default_mem_apply [Clock] {s : Store} (h : defaultDatabase ∈ s.databases) (now : Nat)
    (e : Edit) : defaultDatabase ∈ (e.apply now s).databases := by
  cases e with
  | ensure d => exact ExtTreeMap.mem_insertIfNew.mpr (.inr h)
  | put d k value =>
    simp only [Edit.apply, put, ExtTreeMap.mem_alter]
    split <;> simp_all
  | discard d k => exact ExtTreeMap.mem_modify.mpr h
  | clear d k => exact h
  | schedule d k life => exact h
  | flush d => exact ExtTreeMap.mem_insert.mpr (.inr h)
  | flushAll => simp [Edit.apply, ExtTreeMap.ofList_singleton]

lemma indexed_apply [Clock] {s : Store} (h : s.agenda.Indexed) (now : Nat) (e : Edit) :
    (e.apply now s).agenda.Indexed := by
  cases e with
  | ensure d => exact h
  | put d k value => exact h
  | discard d k => exact h.clear d k
  | clear d k => exact h.clear d k
  | schedule d k life => exact h.set d k _
  | flush d => exact h.clearDatabase d
  | flushAll => exact Agenda.indexed_empty

/-- An edit that takes a value away takes the deadline away with it. -/
lemma deadlineAt_eq_none [Clock] {e : Edit} {now : Nat} {db key : String} {v : Value}
    {t : Option Nat} (h : e.valueAt db key (some v) = none) : e.deadlineAt now db key t = none := by
  cases e with
  | put d k value =>
    simp only [Edit.valueAt] at h
    split at h <;> cases h
  | discard d k =>
    simp only [Edit.valueAt, ite_eq_left_iff, reduceCtorEq, imp_false, not_not] at h
    simp [Edit.deadlineAt, h]
  | flush d =>
    simp only [Edit.valueAt, ite_eq_left_iff, reduceCtorEq, imp_false, not_not] at h
    simp [Edit.deadlineAt, h]
  | flushAll => rfl
  | ensure d => cases h
  | clear d k => cases h
  | schedule d k life => cases h

/-- An edit that schedules nothing gives no key a deadline. -/
lemma deadlineAt_none [Clock] {e : Edit} (he : e.schedules = false) (now : Nat) (db key : String) :
    e.deadlineAt now db key none = none := by
  cases e with
  | schedule d k life => cases he
  | discard d k => simp [Edit.deadlineAt]
  | clear d k => simp [Edit.deadlineAt]
  | flush d => simp [Edit.deadlineAt]
  | flushAll => rfl
  | ensure d => rfl
  | put d k value => rfl

lemma Tidy.apply [Clock] {s : Store} (h : s.Tidy) (now : Nat) {e : Edit}
    (he : e.schedules = false) : (e.apply now s).Tidy where
  indexed := indexed_apply h.indexed now e
  held := by
    intro db key t hat
    rw [deadline?_apply] at hat
    rw [has_iff, value?_apply]
    cases hold : s.deadline? db key with
    | none =>
      rw [hold, deadlineAt_none he] at hat
      cases hat
    | some old =>
      obtain ⟨v, hv⟩ := (s.has_iff db key).mp (h.held db key old hold)
      cases hnew : e.valueAt db key (some v) with
      | none =>
        rw [deadlineAt_eq_none hnew] at hat
        cases hat
      | some w => exact ⟨w, by rw [hv, hnew]⟩
  default_mem := default_mem_apply h.default_mem now e

/-- Giving an existing key a deadline keeps the store tidy. -/
lemma Tidy.setDeadline {s : Store} (h : s.Tidy) {db key : String} (hkey : s.has db key)
    (deadline : Nat) : (s.setDeadline db key deadline).Tidy where
  indexed := h.indexed.set db key deadline
  held := by
    intro d k t hat
    rw [deadline?_setDeadline] at hat
    split at hat
    · rename_i heq
      obtain ⟨rfl, rfl⟩ := heq
      exact hkey
    · exact h.held d k t hat
  default_mem := h.default_mem

lemma Tidy.edit [Clock] {s : Store} (h : s.Tidy) (now : Nat) {edits : List Edit}
    (hedits : ∀ e ∈ edits, e.schedules = false) : (s.edit now edits).Tidy := by
  induction edits generalizing s with
  | nil => exact h
  | cons e rest ih =>
    exact ih (h.apply now (hedits e List.mem_cons_self))
      (fun e' he' => hedits e' (List.mem_cons_of_mem _ he'))

lemma Tidy.commit {s : Store} (h : s.Tidy) (db command : String) (args : List Bytes) :
    (s.commit db command args).Tidy :=
  h.congr (s.databases_commit db command args) (s.agenda_commit db command args)

/-! ## Operations -/

/-- The edits of a refused operation only make databases exist. -/
lemma refused_edits {op : Operation} {s : Store} {pick : Nat} {db : String} {fault : StoreError}
    {edits : List Edit} (h : op.outcome s pick db = .refused fault edits) :
    ∀ e ∈ edits, ∃ d, e = .ensure d := by
  cases op <;> simp only [Operation.outcome, Operation.refusing] at h
  all_goals repeat' split at h
  all_goals cases h
  all_goals simp

lemma schedules_overwriting (db key : String) (value : Value) :
    ∀ e ∈ Operation.overwriting db key value, e.schedules = false := by
  simp [Operation.overwriting, Edit.schedules]

lemma schedules_transferring (db source target : String) (value : Value) :
    ∀ e ∈ Operation.transferring db source target value, e.schedules = false := by
  simp [Operation.transferring, Operation.overwriting, Edit.schedules]

lemma schedules_erasing (db key : String) (found : Option Members) (member : Bytes) :
    ∀ e ∈ Operation.erasing db key found member, e.schedules = false := by
  cases found <;> simp [Operation.erasing, Edit.schedules]

/-- Only an expiration gives a deadline, and only to a key that exists and has none. -/
lemma outcome_schedules {op recorded : Operation} {s : Store} {pick : Nat} {db : String}
    {edits : List Edit} (h : op.outcome s pick db = .made recorded edits) :
    (∀ e ∈ edits, e.schedules = false) ∨
      ∃ key seconds, op = .expire key seconds ∧
        edits = [.schedule db key (seconds.toNat * 1000)] ∧ s.has db key ∧
        s.deadline? db key = none := by
  cases op <;> simp only [Operation.outcome, Operation.refusing] at h
  case expire key seconds =>
    split at h <;> cases h
    rename_i hkey
    split
    · simp
    · rename_i hnone
      exact .inr ⟨key, seconds, rfl, rfl, hkey, by simpa using hnone⟩
  all_goals left
  all_goals repeat' split at h
  all_goals cases h
  all_goals
    first
      | exact schedules_overwriting _ _ _
      | exact schedules_transferring _ _ _ _
      | exact schedules_erasing _ _ _ _
      | simp [Edit.schedules]

lemma Tidy.refused [Clock] {s : Store} (h : s.Tidy) (now : Nat) {edits : List Edit}
    (hedits : ∀ e ∈ edits, ∃ d, e = .ensure d) : (s.edit now edits).Tidy := by
  refine h.edit now fun e he => ?_
  obtain ⟨d, rfl⟩ := hedits e he
  rfl

lemma Tidy.perform [Clock] {s : Store} (h : s.Tidy) (op : Operation) (now pick : Nat)
    (db : String) : (op.perform s now pick db).2.Tidy := by
  rcases Operation.perform_cases s now pick db op with
    ⟨fault, edits, hout, hresult⟩ | ⟨recorded, edits, answer, hout, hresult⟩
  · rw [hresult]
    exact h.refused now (refused_edits hout)
  · rw [hresult]
    refine Tidy.commit ?_ db _ _
    rcases outcome_schedules hout with hnone | ⟨key, seconds, -, rfl, hkey, -⟩
    · exact h.edit now hnone
    · exact h.setDeadline hkey _

/-! ## Snapshots, seeds and the ends of keys -/

lemma Tidy.discard {s : Store} (h : s.Tidy) (db key : String) : (s.discard db key).Tidy :=
  h.apply 0 (e := .discard db key) rfl

lemma Tidy.ensure {s : Store} (h : s.Tidy) (db : String) : (s.ensure db).Tidy :=
  h.apply 0 (e := .ensure db) rfl

/-- What a fold does to a tidy store, step by step. -/
lemma Tidy.foldl {α : Type} {f : Store → α → Store} (hstep : ∀ s a, s.Tidy → (f s a).Tidy)
    {s : Store} (h : s.Tidy) (items : List α) : (items.foldl f s).Tidy := by
  induction items generalizing s with
  | nil => exact h
  | cons a rest ih => exact ih (hstep s a h)

lemma Tidy.restoreEnd [Clock] {s : Store} (h : s.Tidy) (now wall : Nat) (ending : Ending) :
    (s.restoreEnd now wall ending).Tidy := by
  unfold Store.restoreEnd
  split
  · exact h
  · rename_i hkey
    split
    · exact h.discard _ _
    · exact h.setDeadline (by simpa using hkey) _

/-- A restored store is tidy whatever was there before and whatever the snapshot says: ends of keys
that the snapshot does not hold are left aside. -/
lemma tidy_restore [Clock] (s : Store) (now wall : Nat) (snapshot : Snapshot) :
    (s.restore now wall snapshot).Tidy := by
  have hbare : ({ s with databases := snapshot.values, agenda := Agenda.empty }.ensure
      defaultDatabase).Tidy := by
    constructor
    · exact Agenda.indexed_empty
    · intro db key t h
      simp [deadline?, Store.ensure] at h
    · exact ExtTreeMap.mem_insertIfNew.mpr (.inl (Std.LawfulEqCmp.compare_eq_iff_eq.mpr rfl))
  have hfold := Tidy.foldl (fun s ending hs => hs.restoreEnd now wall ending) hbare
    (endsOf snapshot)
  exact hfold.congr rfl rfl

lemma Tidy.replace [Clock] {s : Store} (h : s.Tidy) (now wall version : Nat) (data : Bytes) :
    (s.replace now wall version data).2.Tidy := by
  unfold Store.replace
  split
  · exact h
  · exact (tidy_restore s now wall _).congr rfl rfl

lemma Tidy.loadEntry {s : Store} (h : s.Tidy) (entry : SeedEntry) : (s.loadEntry entry).Tidy := by
  cases entry with
  | select db => exact h.ensure db
  | value db key data =>
    have hwritten := h.edit 0 (schedules_overwriting db key (.string data))
    exact hwritten.congr rfl rfl

lemma Tidy.loadSeed {s : Store} (h : s.Tidy) (entries : List SeedEntry) :
    (s.loadSeed entries).Tidy :=
  (h.foldl (fun _ entry hs => hs.loadEntry entry) entries).congr rfl rfl

lemma Tidy.endKey {s : Store} (h : s.Tidy) (ending : Ending) : (s.endKey ending).Tidy := by
  unfold Store.endKey
  split
  · exact h.perform (.remove [ending.key]) 0 0 ending.db
  · exact h.discard _ _

lemma Tidy.expirePass {s : Store} (h : s.Tidy) (now : Nat) : (s.expirePass now).2.Tidy :=
  h.foldl (fun _ ending hs => hs.endKey ending) _

/-! ## Every reachable store -/

lemma Tidy.run [Clock] {s : Store} (h : s.Tidy) (now : Nat) (a : Action) : (a.run now s).Tidy := by
  cases a with
  | perform op pick db => exact h.perform op now pick db
  | ensure db => exact h.ensure db
  | expirePass => exact h.expirePass now
  | restore wall snapshot => exact tidy_restore s now wall snapshot
  | replace wall version data => exact h.replace now wall version data
  | loadSeed entries => exact h.loadSeed entries
  | journalUnversioned db command => exact h.congr (databases_record _ _) (agenda_record _ _)
  | recordOperation => exact h.congr rfl rfl
  | takeChanged => exact h.congr rfl rfl
  | setRecording recording => exact h.congr rfl rfl
  | takeJournal => exact h.congr rfl rfl
  | markSaved wall mark => exact h.congr rfl rfl

lemma Reachable.tidy [Clock] {s : Store} (h : Reachable s) : s.Tidy := by
  induction h with
  | new authority => exact tidy_new authority
  | run _ now a ih => exact ih.run now a

/-- **The tables of deadlines agree, in every reachable store.**  The agenda lists an end exactly
when the table by key has it, so that no key has two; every key with a deadline exists; and so does
the default database. -/
theorem Reachable.deadline_tables_agree [Clock] {s : Store} (h : Reachable s) :
    (∀ t db key, ⟨t, db, key⟩ ∈ s.agenda.endings ↔
      s.agenda.deadlines[db]?.bind (·[key]?) = some t) ∧
    (∀ (db key : String) t, s.agenda.deadlines[db]?.bind (·[key]?) = some t →
      ∃ value, s.databases[db]?.bind (·[key]?) = some value) ∧
    (∀ db key t u, ⟨t, db, key⟩ ∈ s.agenda.endings → ⟨u, db, key⟩ ∈ s.agenda.endings → t = u) ∧
    "0" ∈ s.databases := by
  have htidy := h.tidy
  refine ⟨htidy.indexed, ?_, ?_, htidy.default_mem⟩
  · intro db key t hat
    exact (s.has_iff db key).mp (htidy.held db key t hat)
  · intro db key t u ht hu
    have hboth := ((htidy.indexed t db key).mp ht).symm.trans ((htidy.indexed u db key).mp hu)
    exact Option.some.inj hboth

theorem Reachable.deadline_tables_agree_timed :
    let written := ((Operation.set "a" []).perform (Store.new true) 3 0 "0").2
    let timed := ((Operation.expire "a" 10).perform written 3 0 "0").2
    Reachable timed ∧ (⟨10003, "0", "a"⟩ : Ending) ∈ timed.agenda.endings := by
  intro written timed
  have htimed : Reachable timed :=
    ((Reachable.new true).run 3 (.perform (.set "a" []) 0 "0")).run 3
      (.perform (.expire "a" 10) 0 "0")
  refine ⟨htimed, (htimed.deadline_tables_agree.1 10003 "0" "a").mpr ?_⟩
  decide +kernel

/-! ## How far ahead deadlines lie -/

/-- No key has a deadline after the limit. -/
def EndsBy (s : Store) (limit : Nat) : Prop :=
  ∀ db key t, s.deadline? db key = some t → t ≤ limit

lemma EndsBy.mono {s : Store} {limit later : Nat} (h : s.EndsBy limit) (hle : limit ≤ later) :
    s.EndsBy later :=
  fun db key t hat => Nat.le_trans (h db key t hat) hle

lemma EndsBy.congr {s t : Store} {limit : Nat} (h : s.EndsBy limit)
    (hagenda : t.agenda = s.agenda) : t.EndsBy limit := by
  intro db key d hat
  rw [deadline?, hagenda] at hat
  exact h db key d hat

lemma deadlineAfter_le [Clock] (now life : Nat) :
    deadlineAfter now life ≤ now + Clock.ticks longestLife :=
  Nat.add_le_add_left (Nat.mul_le_mul_right _ (Nat.min_le_right _ _)) now

/-- What such a deadline leaves at `now` is not more than the longest life. -/
lemma wholeMillis_sub_le [Clock] {now deadline : Nat}
    (h : deadline ≤ now + Clock.ticks longestLife) :
    Clock.wholeMillis (deadline - now) ≤ longestLife :=
  Clock.wholeMillis_le (Nat.sub_le_iff_le_add'.mpr h)

lemma deadlineAt_le [Clock] {e : Edit} {now : Nat} {db key : String} {old : Option Nat} {t : Nat}
    (h : e.deadlineAt now db key old = some t) :
    old = some t ∨ t ≤ now + Clock.ticks longestLife := by
  cases e with
  | schedule d k life =>
    simp only [Edit.deadlineAt] at h
    split at h
    · rw [← Option.some.inj h]
      exact .inr (deadlineAfter_le now life)
    · exact .inl h
  | discard d k =>
    simp only [Edit.deadlineAt] at h
    split at h <;> [cases h; exact .inl h]
  | clear d k =>
    simp only [Edit.deadlineAt] at h
    split at h <;> [cases h; exact .inl h]
  | flush d =>
    simp only [Edit.deadlineAt] at h
    split at h <;> [cases h; exact .inl h]
  | flushAll => cases h
  | ensure d => exact .inl h
  | put d k value => exact .inl h

lemma EndsBy.edit [Clock] {s : Store} {now : Nat}
    (h : s.EndsBy (now + Clock.ticks longestLife)) (edits : List Edit) :
    (s.edit now edits).EndsBy (now + Clock.ticks longestLife) := by
  induction edits generalizing s with
  | nil => exact h
  | cons e rest ih =>
    refine ih fun db key t hat => ?_
    rw [deadline?_apply] at hat
    rcases deadlineAt_le hat with hold | hle
    · exact h db key t hold
    · exact hle

lemma EndsBy.perform [Clock] {s : Store} {now : Nat}
    (h : s.EndsBy (now + Clock.ticks longestLife)) (op : Operation) (pick : Nat) (db : String) :
    (op.perform s now pick db).2.EndsBy (now + Clock.ticks longestLife) := by
  rcases Operation.perform_cases s now pick db op with
    ⟨fault, edits, -, hresult⟩ | ⟨recorded, edits, answer, -, hresult⟩
  · rw [hresult]
    exact h.edit edits
  · rw [hresult]
    exact (h.edit edits).congr (agenda_commit _ _ _ _)

lemma EndsBy.discard {s : Store} {limit : Nat} (h : s.EndsBy limit) (db key : String) :
    (s.discard db key).EndsBy limit := by
  intro d k t hat
  rw [deadline?_discard] at hat
  split at hat <;> [cases hat; exact h d k t hat]

lemma EndsBy.foldl {α : Type} {f : Store → α → Store} {limit : Nat}
    (hstep : ∀ s a, s.EndsBy limit → (f s a).EndsBy limit) {s : Store} (h : s.EndsBy limit)
    (items : List α) : (items.foldl f s).EndsBy limit := by
  induction items generalizing s with
  | nil => exact h
  | cons a rest ih => exact ih (hstep s a h)

lemma endsBy_restore [Clock] (s : Store) (now wall : Nat) (snapshot : Snapshot) :
    (s.restore now wall snapshot).EndsBy (now + Clock.ticks longestLife) := by
  refine (EndsBy.foldl ?_ ?_ (endsOf snapshot)).congr rfl
  · intro s e h
    unfold Store.restoreEnd
    split
    · exact h
    · split
      · exact h.discard _ _
      · intro db key t hat
        rw [deadline?_setDeadline] at hat
        split at hat
        · rw [← Option.some.inj hat]
          exact deadlineAfter_le now _
        · exact h db key t hat
  · intro db key t hat
    simp [deadline?, Store.ensure] at hat

lemma EndsBy.replace [Clock] {s : Store} {now : Nat} (h : s.EndsBy (now + Clock.ticks longestLife))
    (wall version : Nat) (data : Bytes) :
    (s.replace now wall version data).2.EndsBy (now + Clock.ticks longestLife) := by
  unfold Store.replace
  split
  · exact h
  · exact (s.endsBy_restore now wall _).congr rfl

/-- The stores that a new one can become by the time `now`, on a clock that never goes back. -/
inductive ReachedBy [Clock] : Nat → Store → Prop where
  /-- A new store. -/
  | new (authority : Bool) (now : Nat) : ReachedBy now (new authority)
  /-- A store after one more action, at the same time or later. -/
  | run {before now : Nat} {s : Store} (h : ReachedBy before s) (hle : before ≤ now)
    (a : Action) : ReachedBy now (a.run now s)

lemma ReachedBy.reachable [Clock] {now : Nat} {s : Store} (h : ReachedBy now s) : Reachable s := by
  induction h with
  | new authority now => exact .new authority
  | run _ hle a ih => exact ih.run _ a

/-- On a clock that never goes back, no deadline is further ahead than the longest life. -/
lemma ReachedBy.endsBy [Clock] {now : Nat} {s : Store} (h : ReachedBy now s) :
    s.EndsBy (now + Clock.ticks longestLife) := by
  induction h with
  | new authority now =>
    intro db key t hat
    simp [deadline?, Store.new] at hat
  | run _ hle a ih =>
    rename_i before now s _
    have hbefore : s.EndsBy (now + Clock.ticks longestLife) := ih.mono (by omega)
    cases a with
    | perform op pick db => exact hbefore.perform op pick db
    | expirePass =>
      refine hbefore.foldl (fun s e hs => ?_) (s.agenda.due now)
      unfold Store.endKey
      split
      · exact hs.perform (.remove [e.key]) 0 e.db
      · exact hs.discard _ _
    | restore wall snapshot => exact s.endsBy_restore now wall snapshot
    | replace wall version data => exact hbefore.replace wall version data
    | loadSeed entries =>
      refine (hbefore.foldl (fun s entry hs => ?_) entries).congr rfl
      cases entry with
      | select db => exact hs.congr rfl
      | value db key data =>
        intro d k t hat
        change (s.clearDeadline db key).deadline? d k = some t at hat
        rw [deadline?_clearDeadline] at hat
        split at hat <;> [cases hat; exact hs d k t hat]
    | journalUnversioned db command => exact hbefore.congr (agenda_record _ _)
    | ensure db => exact hbefore.congr rfl
    | recordOperation => exact hbefore.congr rfl
    | takeChanged => exact hbefore.congr rfl
    | setRecording recording => exact hbefore.congr rfl
    | takeJournal => exact hbefore.congr rfl
    | markSaved wall mark => exact hbefore.congr rfl

end Store

end ReplicatedStore
