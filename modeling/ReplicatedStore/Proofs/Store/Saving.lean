import ReplicatedStore.Proofs.Snapshot.RoundTrip
import ReplicatedStore.Proofs.Store.Restore

/-!
# What outlives a restart

A store writes its contents, with the ends of keys in unix time, and a store reads them back at a
later unix time.  A key without a deadline comes back as it was; one with a deadline comes back if
it had more time left than has passed since, and then has what remains of it
(`ReachedBy.revived`).  All that the reading store had before is gone.

The time left is told in whole milliseconds, whatever the clock of the store counts: what goes
beyond them is lost on the way, and a key that has less than one is not revived.

The saved ends are never cut on the way back: on a clock that does not go back, no deadline is
further ahead than the longest life (`ReachedBy.endsBy`), so what remains is shorter still.
-/

open Std (ExtTreeMap)

namespace ReplicatedStore.Store

/-! ## The databases of a restored store -/

lemma mem_databases_restoreEnd [Clock] (s : Store) (now wall : Nat) (e : Ending) (db : String) :
    db ∈ (s.restoreEnd now wall e).databases ↔ db ∈ s.databases := by
  unfold restoreEnd
  split
  · rfl
  · split
    · exact ExtTreeMap.mem_modify
    · rfl

lemma mem_databases_restoreEnds [Clock] (s : Store) (now wall : Nat) (endings : List Ending)
    (db : String) :
    db ∈ (endings.foldl (restoreEnd now wall) s).databases ↔ db ∈ s.databases := by
  induction endings generalizing s with
  | nil => rfl
  | cons e rest ih =>
    rw [List.foldl_cons, ih]
    exact mem_databases_restoreEnd s now wall e db

lemma mem_databases_restore [Clock] (s : Store) (now wall : Nat) (snapshot : Snapshot)
    (db : String) : db ∈ (s.restore now wall snapshot).databases ↔
      db = defaultDatabase ∨ db ∈ snapshot.values := by
  show db ∈ ((endsOf snapshot).foldl (restoreEnd now wall) (s.bare snapshot)).databases ↔ _
  rw [mem_databases_restoreEnds, bare, ensure, ExtTreeMap.mem_insertIfNew,
    Std.compare_eq_iff_eq, eq_comm]

/-! ## The time that keys have left -/

/-- The whole milliseconds that a key has left at `now`, if it has a deadline at all. -/
def remaining? [Clock] (s : Store) (now : Nat) (db key : String) : Option Nat :=
  (s.deadline? db key).map fun deadline => Clock.wholeMillis (deadline - now)

lemma remaining?_eq_some [Clock] {s : Store} {now left : Nat} {db key : String} :
    s.remaining? now db key = some left ↔
      ∃ d, s.deadline? db key = some d ∧ Clock.wholeMillis (d - now) = left := by
  rw [remaining?, Option.map_eq_some_iff]

/-- The end of a key in a snapshot has not come as long as less time passed than the key had. -/
lemma wallTime_le_iff [Clock] {now wall wallLater deadline : Nat} (hlater : wall ≤ wallLater) :
    wallTime now wall deadline ≤ wallLater ↔
      Clock.wholeMillis (deadline - now) ≤ wallLater - wall := by
  unfold wallTime
  omega

/-- What remains of a time to live after `passed` milliseconds is never cut. -/
lemma deadlineAfter_wallTime [Clock] {now wall wallLater deadline : Nat} (later : Nat)
    (hlater : wall ≤ wallLater) (hlimit : deadline ≤ now + Clock.ticks longestLife) :
    deadlineAfter later (wallTime now wall deadline - wallLater) =
      later + Clock.ticks (Clock.wholeMillis (deadline - now) - (wallLater - wall)) := by
  have hleft := wholeMillis_sub_le hlimit
  have hcut : min (wallTime now wall deadline - wallLater) longestLife =
      Clock.wholeMillis (deadline - now) - (wallLater - wall) := by
    unfold wallTime
    omega
  rw [deadlineAfter, hcut]

/-! ## Saving and restoring -/

/-- Does `t` hold what is left of `a`, which was saved when the clock showed `now`, after `passed`
milliseconds?  The clock of `t` shows `later`. -/
structure Revived [Clock] (a : Store) (now passed later : Nat) (t : Store) : Prop where
  /-- The databases are the same, those without keys among them. -/
  databases : ∀ db, db ∈ t.databases ↔ db ∈ a.databases
  /-- A key holds what it held, unless its time is over. -/
  values : ∀ db key value, t.value? db key = some value ↔
    a.value? db key = some value ∧ ∀ left, a.remaining? now db key = some left → passed < left
  /-- A key has a deadline if it had one, with the time that remains. -/
  deadlines : ∀ db key deadline, t.deadline? db key = some deadline ↔
    ∃ left, a.remaining? now db key = some left ∧ passed < left ∧
      deadline = later + Clock.ticks (left - passed)
  /-- The agenda lists these deadlines and no others. -/
  endings : ∀ deadline db key,
    ⟨deadline, db, key⟩ ∈ t.agenda.endings ↔ t.deadline? db key = some deadline

/-- Restoring the snapshot of a tidy store whose deadlines are not too far ahead. -/
lemma Tidy.restore_snapshot [Clock] {a : Store} (h : a.Tidy) {now : Nat}
    (hlimit : a.EndsBy (now + Clock.ticks longestLife)) (b : Store) (later : Nat)
    {wall wallLater : Nat} (hlater : wall ≤ wallLater) :
    a.Revived now (wallLater - wall) later (b.restore later wallLater (a.snapshot now wall)) := by
  have hends := fun db key => end?_snapshot a now wall db key
  constructor
  · intro db
    rw [mem_databases_restore]
    constructor
    · rintro (rfl | hmem)
      · exact h.default_mem
      · exact hmem
    · exact Or.inr
  · intro db key value
    rw [(b.restored later wallLater _ db key).1, hends, value?_snapshot, Option.any_map]
    -- What was saved has ended exactly if no more time was left than has passed.
    cases hd : a.deadline? db key with
    | none => simp [remaining?, hd]
    | some d =>
      simp only [Option.any_some, wallTime_le_iff hlater, remaining?, hd,
        Option.map_some, Option.some.injEq, forall_eq', decide_eq_true_eq]
      split <;> rename_i hpassed
      · simp [Nat.not_lt.mpr hpassed]
      · simp [Nat.not_le.mp hpassed]
  · intro db key deadline
    rw [(b.restored later wallLater _ db key).2, hends, value?_snapshot, Option.bind_map]
    cases hd : a.deadline? db key with
    | none => simp [remaining?, hd]
    | some d =>
      -- The key exists, since the store is tidy.
      obtain ⟨value, hvalue⟩ := (a.has_iff db key).mp (h.held db key d hd)
      simp only [hvalue, Option.bind_some, Function.comp_apply, wallTime_le_iff hlater,
        deadlineAfter_wallTime later hlater (hlimit db key d hd), remaining?, hd, Option.map_some,
        Option.some.injEq, exists_eq_left']
      split <;> rename_i hpassed
      · simp [Nat.not_lt.mpr hpassed]
      · simp [Nat.not_le.mp hpassed, eq_comm]
  · exact (tidy_restore b later wallLater _).indexed

/-- **A store that is saved and restored.**  Whatever store `b` reads the saved contents, and
whenever: it then holds what is left of `a`. -/
theorem ReachedBy.revived [Clock] {a : Store} {reached now wall : Nat} {data : Bytes}
    (h : ReachedBy reached a) (hnow : reached ≤ now)
    (hsaved : (a.snapshot now wall).encode = .ok data)
    (hfits : ∀ db key left, a.remaining? now db key = some left → wall + left < 2 ^ 64)
    (b : Store) (later : Nat) {wallLater : Nat} (hlater : wall ≤ wallLater) :
    ∃ snapshot, Snapshot.decode data = .ok snapshot ∧
      a.Revived now (wallLater - wall) later (b.restore later wallLater snapshot) := by
  have hends : (a.snapshot now wall).EndsFit := by
    refine endsFit_snapshot fun db key d hd => ?_
    have hfit := hfits db key _ (remaining?_eq_some.mpr ⟨d, hd, rfl⟩)
    unfold wallTime
    omega
  have hlimit : a.EndsBy (now + Clock.ticks longestLife) := h.endsBy.mono (by omega)
  exact ⟨a.snapshot now wall, Snapshot.decode_encode hends hsaved,
    h.reachable.tidy.restore_snapshot hlimit b later hlater⟩

section Nanos

attribute [local instance] Clock.nanos

/-- A store with an empty database, a key that stays, and two keys that end after five and ten
seconds.  Its clock counts nanoseconds. -/
def timed : Store :=
  List.foldl (Action.run 1000) (new true)
    [.ensure "9", .perform (.set "stays" []) 0 "0", .perform (.set "short" []) 0 "0",
      .perform (.set "long" []) 0 "0", .perform (.expire "short" 5) 0 "0",
      .perform (.expire "long" 10) 0 "0"]

/-- The key that had half a microsecond left is gone, and so is what was there before. -/
theorem ReachedBy.revived_timed :
    timed.has "0" "short" ∧ timed.deadline? "0" "short" = some 5000001000 ∧
      ∃ data snapshot, (timed.snapshot 5000000500 77).encode = .ok data ∧
        Snapshot.decode data = .ok snapshot ∧
        let t := (timed.set "0" "stale" []).restore 20 154 snapshot
        t.value? "0" "short" = none ∧ t.value? "0" "stale" = none ∧
          t.deadline? "0" "long" = some 4923000020 ∧ t.value? "0" "stays" = some (.string []) ∧
          "9" ∈ t.databases := by
  have hreached : ReachedBy 1000 timed :=
    ((((((ReachedBy.new true 1000).run (Nat.le_refl _) (.ensure "9")).run (Nat.le_refl _)
      (.perform (.set "stays" []) 0 "0")).run (Nat.le_refl _)
      (.perform (.set "short" []) 0 "0")).run (Nat.le_refl _)
      (.perform (.set "long" []) 0 "0")).run (Nat.le_refl _)
      (.perform (.expire "short" 5) 0 "0")).run (Nat.le_refl _) (.perform (.expire "long" 10) 0 "0")
  have hlast : ∀ db key left, timed.remaining? 5000000500 db key = some left →
      left ≤ longestLife := by
    intro db key left hleft
    obtain ⟨d, hd, rfl⟩ := remaining?_eq_some.mp hleft
    exact wholeMillis_sub_le (hreached.endsBy.mono (Nat.add_le_add_right (by decide) _) db key d hd)
  have hunix : ∀ db key left, timed.remaining? 5000000500 db key = some left →
      77 + left < 2 ^ 64 := by
    intro db key left hleft
    have hle := hlast db key left hleft
    unfold longestLife at hle
    omega
  have hfits : (timed.snapshot 5000000500 77).Fits :=
    ⟨by decide +kernel, by decide +kernel, endsFit_snapshot fun db key d hd =>
      hunix db key _ (remaining?_eq_some.mpr ⟨d, hd, rfl⟩)⟩
  obtain ⟨data, hsaved⟩ := hfits.encode
  obtain ⟨snapshot, hdecoded, hrevived⟩ := ReachedBy.revived hreached (by decide) hsaved hunix
    (timed.set "0" "stale" []) 20 (show 77 ≤ 154 by decide)
  refine ⟨by decide +kernel, by decide +kernel, data, snapshot, hsaved, hdecoded, ?_, ?_, ?_, ?_,
    ?_⟩
  · rw [Option.eq_none_iff_forall_ne_some]
    intro value hvalue
    have hleft := ((hrevived.values "0" "short" value).mp hvalue).2 0 (by decide +kernel)
    omega
  · rw [Option.eq_none_iff_forall_ne_some]
    intro value hvalue
    have hheld := ((hrevived.values "0" "stale" value).mp hvalue).1
    have hnone : timed.value? "0" "stale" = none := by decide +kernel
    rw [hnone] at hheld
    cases hheld
  · exact (hrevived.deadlines "0" "long" 4923000020).mpr
      ⟨5000, by decide +kernel, by decide, by decide⟩
  · refine (hrevived.values "0" "stays" _).mpr ⟨by decide +kernel, fun left hleft => ?_⟩
    have hnone : timed.remaining? 5000000500 "0" "stays" = none := by decide +kernel
    rw [hnone] at hleft
    cases hleft
  · exact (hrevived.databases "9").mpr (by decide +kernel)

end Nanos

end ReplicatedStore.Store
