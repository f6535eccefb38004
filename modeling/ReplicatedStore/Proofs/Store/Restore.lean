import ReplicatedStore.Proofs.Snapshot.Encoding
import ReplicatedStore.Proofs.Store.Deadlines
import ReplicatedStore.Proofs.Store.Replay

/-!
# What a copy of a store holds

A new replica takes the version and the encoded contents of a store in place of its own.  It then
holds what the store held, but for the keys whose end has come on the way, and every key that has a
deadline keeps the time that it has left (`replace_dump`).  So it follows the store, and the keys
whose end has come are lost (`ReachedBy.follows_copy`).

Restoring gives the keys their ends one after the other.  No key has two, so what becomes of a key
depends on its own end alone (`restored`).
-/

open Std (ExtTreeMap)

namespace ReplicatedStore

namespace Snapshot

/-- What a key holds in a snapshot. -/
def value? (s : Snapshot) (db key : String) : Option Value :=
  s.values[db]?.bind (·[key]?)

/-- The end of a key in a snapshot. -/
def end? (s : Snapshot) (db key : String) : Option Nat :=
  s.expires[db]?.bind (·[key]?)

end Snapshot

namespace Store

/-! ## Restoring -/

lemma mem_endsOf {snapshot : Snapshot} {deadline : Nat} {db key : String} :
    ⟨deadline, db, key⟩ ∈ endsOf snapshot ↔ snapshot.end? db key = some deadline := by
  simp only [endsOf, List.mem_flatMap, List.mem_map, Ending.mk.injEq, Snapshot.end?,
    Option.bind_eq_some_iff]
  constructor
  · rintro ⟨⟨d, keys⟩, hkeys, ⟨k, t⟩, hkey, rfl, rfl, rfl⟩
    exact ⟨keys, ExtTreeMap.mem_toList_iff_getElem?_eq_some.mp hkeys,
      ExtTreeMap.mem_toList_iff_getElem?_eq_some.mp hkey⟩
  · rintro ⟨keys, hkeys, hkey⟩
    exact ⟨(db, keys), ExtTreeMap.mem_toList_iff_getElem?_eq_some.mpr hkeys, (key, deadline),
      ExtTreeMap.mem_toList_iff_getElem?_eq_some.mpr hkey, rfl, rfl, rfl⟩

/-- No key has two ends in a snapshot. -/
lemma endsOf_distinct (snapshot : Snapshot) :
    (endsOf snapshot).Pairwise fun a b => ¬ (b.db = a.db ∧ b.key = a.key) := by
  rw [endsOf, List.pairwise_flatMap]
  constructor
  · rintro ⟨db, keys⟩ -
    rw [List.pairwise_map]
    refine ExtTreeMap.distinct_keys_toList.imp fun hne hsame => hne ?_
    exact Std.LawfulEqCmp.compare_eq_iff_eq.mpr hsame.2.symm
  · refine ExtTreeMap.distinct_keys_toList.imp fun hne a ha b hb hsame => hne ?_
    obtain ⟨x, -, rfl⟩ := List.mem_map.mp ha
    obtain ⟨y, -, rfl⟩ := List.mem_map.mp hb
    exact Std.LawfulEqCmp.compare_eq_iff_eq.mpr hsame.1.symm

section RestoreEnds

variable [Clock] (now wall : Nat) {db key : String}

lemma value?_restoreEnd_other (s : Store) {e : Ending} (h : ¬ (db = e.db ∧ key = e.key)) :
    (s.restoreEnd now wall e).value? db key = s.value? db key := by
  unfold restoreEnd
  split
  · rfl
  · split
    · rw [value?_discard, if_neg h]
    · rfl

lemma deadline?_restoreEnd_other (s : Store) {e : Ending} (h : ¬ (db = e.db ∧ key = e.key)) :
    (s.restoreEnd now wall e).deadline? db key = s.deadline? db key := by
  unfold restoreEnd
  split
  · rfl
  · split
    · rw [deadline?_discard, if_neg h]
    · rw [deadline?_setDeadline, if_neg h]

/-- Ends of other keys leave a key alone. -/
lemma restoreEnds_other (s : Store) {endings : List Ending}
    (h : ∀ e ∈ endings, ¬ (db = e.db ∧ key = e.key)) :
    (endings.foldl (restoreEnd now wall) s).value? db key = s.value? db key ∧
      (endings.foldl (restoreEnd now wall) s).deadline? db key = s.deadline? db key := by
  induction endings generalizing s with
  | nil => exact ⟨rfl, rfl⟩
  | cons e rest ih =>
    obtain ⟨hvalue, hdeadline⟩ := ih (s.restoreEnd now wall e)
      fun e' he' => h e' (List.mem_cons_of_mem _ he')
    have hother := h e List.mem_cons_self
    rw [value?_restoreEnd_other now wall s hother] at hvalue
    rw [deadline?_restoreEnd_other now wall s hother] at hdeadline
    exact ⟨hvalue, hdeadline⟩

/-- A key that does not exist is left aside, whatever ends there are. -/
lemma restoreEnds_missing (s : Store) {endings : List Ending} (h : s.value? db key = none) :
    (endings.foldl (restoreEnd now wall) s).value? db key = none ∧
      (endings.foldl (restoreEnd now wall) s).deadline? db key = s.deadline? db key := by
  induction endings generalizing s with
  | nil => exact ⟨h, rfl⟩
  | cons e rest ih =>
    have hstep : (s.restoreEnd now wall e).value? db key = s.value? db key ∧
        (s.restoreEnd now wall e).deadline? db key = s.deadline? db key := by
      by_cases hnamed : db = e.db ∧ key = e.key
      · have hkept : s.restoreEnd now wall e = s := by
          rw [restoreEnd, if_pos]
          rw [← hnamed.1, ← hnamed.2, has, h]
          rfl
        rw [hkept]
        exact ⟨rfl, rfl⟩
      · exact ⟨value?_restoreEnd_other now wall s hnamed,
          deadline?_restoreEnd_other now wall s hnamed⟩
    obtain ⟨hvalue, hdeadline⟩ := ih _ (hstep.1.trans h)
    exact ⟨hvalue, hdeadline.trans hstep.2⟩

/-- The one end of a key decides what becomes of it. -/
lemma restoreEnds_named (s : Store) {endings : List Ending}
    (hdistinct : endings.Pairwise fun a b => ¬ (b.db = a.db ∧ b.key = a.key)) {deadline : Nat}
    (hmem : ⟨deadline, db, key⟩ ∈ endings) (hkey : s.has db key) :
    (endings.foldl (restoreEnd now wall) s).value? db key =
        (if deadline ≤ wall then none else s.value? db key) ∧
      (endings.foldl (restoreEnd now wall) s).deadline? db key =
        if deadline ≤ wall then none else some (deadlineAfter now (deadline - wall)) := by
  induction endings generalizing s with
  | nil => cases hmem
  | cons e rest ih =>
    obtain ⟨hfirst, hrest⟩ := List.pairwise_cons.mp hdistinct
    rw [List.foldl_cons]
    rcases List.mem_cons.mp hmem with rfl | hlater
    · have hothers : ∀ e ∈ rest, ¬ (db = e.db ∧ key = e.key) :=
        fun e he hsame => hfirst e he ⟨hsame.1.symm, hsame.2.symm⟩
      obtain ⟨hvalue, hdeadline⟩ := restoreEnds_other now wall
        (s.restoreEnd now wall ⟨deadline, db, key⟩) hothers
      rw [hvalue, hdeadline]
      unfold restoreEnd
      rw [if_neg (by simp [hkey])]
      split
      · rw [value?_discard, deadline?_discard]
        simp
      · rw [value?_setDeadline, deadline?_setDeadline]
        simp
    · have hother : ¬ (db = e.db ∧ key = e.key) := hfirst _ hlater
      have hkept : (s.restoreEnd now wall e).has db key := by
        rwa [has, value?_restoreEnd_other now wall s hother]
      have hrestored := ih (s.restoreEnd now wall e) hrest hlater hkept
      rwa [value?_restoreEnd_other now wall s hother] at hrestored

end RestoreEnds

/-- The store that a snapshot is restored into, before any key gets its end. -/
def bare (s : Store) (snapshot : Snapshot) : Store :=
  { s with databases := snapshot.values, agenda := Agenda.empty }.ensure defaultDatabase

lemma value?_bare (s : Store) (snapshot : Snapshot) (db key : String) :
    (s.bare snapshot).value? db key = snapshot.value? db key :=
  value?_ensure _ defaultDatabase db key

lemma deadline?_bare (s : Store) (snapshot : Snapshot) (db key : String) :
    (s.bare snapshot).deadline? db key = none :=
  Agenda.deadline?_empty db key

/-- What a restored store holds, and when its keys end: a key whose end has passed is not there, and
a deadline needs a key. -/
lemma restored [Clock] (s : Store) (now wall : Nat) (snapshot : Snapshot) (db key : String) :
    (s.restore now wall snapshot).value? db key =
        (if (snapshot.end? db key).any (· ≤ wall) then none else snapshot.value? db key) ∧
      (s.restore now wall snapshot).deadline? db key =
        (snapshot.value? db key).bind fun _ => (snapshot.end? db key).bind fun deadline =>
          if deadline ≤ wall then none else some (deadlineAfter now (deadline - wall)) := by
  show ((endsOf snapshot).foldl (restoreEnd now wall) (s.bare snapshot)).value? db key = _ ∧
    ((endsOf snapshot).foldl (restoreEnd now wall) (s.bare snapshot)).deadline? db key = _
  cases hheld : snapshot.value? db key with
  | none =>
    obtain ⟨hvalue, hdeadline⟩ := restoreEnds_missing now wall (s.bare snapshot)
      ((s.value?_bare snapshot db key).trans hheld)
    rw [hvalue, hdeadline, deadline?_bare]
    simp
  | some value =>
    cases hend : snapshot.end? db key with
    | none =>
      have hothers : ∀ e ∈ endsOf snapshot, ¬ (db = e.db ∧ key = e.key) := by
        rintro ⟨deadline, d, k⟩ he ⟨rfl, rfl⟩
        rw [mem_endsOf.mp he] at hend
        cases hend
      obtain ⟨hvalue, hdeadline⟩ := restoreEnds_other now wall (s.bare snapshot) hothers
      rw [hvalue, hdeadline, value?_bare, deadline?_bare, hheld]
      simp
    | some deadline =>
      have hkey : (s.bare snapshot).has db key := by
        rw [has_iff, value?_bare]
        exact ⟨value, hheld⟩
      obtain ⟨hvalue, hdeadline⟩ := restoreEnds_named now wall (s.bare snapshot)
        (endsOf_distinct snapshot) (mem_endsOf.mpr hend) hkey
      rw [hvalue, hdeadline, value?_bare, hheld]
      simp

/-! ## Copying -/

lemma value?_snapshot [Clock] (s : Store) (now wall : Nat) (db key : String) :
    (s.snapshot now wall).value? db key = s.value? db key := rfl

/-- A snapshot has the end of every key that has a deadline. -/
lemma end?_snapshot [Clock] (s : Store) (now wall : Nat) (db key : String) :
    (s.snapshot now wall).end? db key = (s.deadline? db key).map (wallTime now wall) := by
  simp only [Snapshot.end?, snapshot, deadline?, Agenda.deadline?, ExtTreeMap.getElem?_map,
    ExtTreeMap.getElem?_filter']
  cases hkeys : s.agenda.deadlines[db]? with
  | none => rfl
  | some keys =>
    by_cases hempty : keys = ∅
    · simp [hempty]
    · have hfilled : keys.isEmpty = false := ExtTreeMap.isEmpty_eq_false_iff.mpr hempty
      have hkept : (some keys).filter (fun keys => !keys.isEmpty) = some keys :=
        Option.filter_some_pos (by rw [hfilled]; rfl)
      rw [hkept]
      simp [ExtTreeMap.getElem?_map]

/-- The ends of a snapshot fit when the unix time of every deadline does. -/
lemma endsFit_snapshot [Clock] {s : Store} {now wall : Nat}
    (h : ∀ db key deadline, s.deadline? db key = some deadline →
      wallTime now wall deadline < 256 ^ 8) : (s.snapshot now wall).EndsFit := by
  intro db keys hkeys key deadline hkey
  have hend : (s.snapshot now wall).end? db key = some deadline := by
    rw [Snapshot.end?, hkeys, Option.bind_some, hkey]
  rw [end?_snapshot, Option.map_eq_some_iff] at hend
  obtain ⟨d, hd, rfl⟩ := hend
  exact h db key d hd

/-- **What a copy holds.**  A store that takes the encoded contents of another takes its version and
its keys, but for those whose end has come; a key with a deadline keeps the time it has left. -/
lemma replace_dump [Clock] {s : Store} {now wall version : Nat} {data : Bytes}
    (hdump : s.dump now wall = .ok (version, data))
    (hfits : ∀ db key deadline, s.deadline? db key = some deadline →
      wallTime now wall deadline < 256 ^ 8)
    (t : Store) (later wallLater : Nat) :
    ∃ copy, t.replace later wallLater version data = (.ok (), copy) ∧
      copy.revision = s.revision ∧ copy.journal = t.journal ∧ copy.authority = t.authority ∧
      ∀ db key, copy.value? db key =
          (if (s.deadline? db key).any fun d => wallTime now wall d ≤ wallLater then none
            else s.value? db key) ∧
        copy.deadline? db key = (s.value? db key).bind fun _ => (s.deadline? db key).bind fun d =>
          if wallTime now wall d ≤ wallLater then none
          else some (deadlineAfter later (wallTime now wall d - wallLater)) := by
  obtain ⟨encoded, hencoded, hpair⟩ := Layout.bind_eq_ok hdump
  obtain ⟨rfl, rfl⟩ : s.revision = version ∧ encoded = data := by simpa using Except.ok.inj hpair
  have hdecoded := Snapshot.decode_encode (endsFit_snapshot hfits) hencoded
  refine ⟨{ t.restore later wallLater (s.snapshot now wall) with
    revision := s.revision, changed := true }, ?_, rfl, ?_, ?_, ?_⟩
  · rw [replace, hdecoded]
  · exact (t.sameCounters_restore later wallLater _).journal
  · exact (t.sameCounters_restore later wallLater _).authority
  · intro db key
    obtain ⟨hvalue, hdeadline⟩ := t.restored later wallLater (s.snapshot now wall) db key
    rw [end?_snapshot, value?_snapshot] at hvalue hdeadline
    refine ⟨hvalue.trans ?_, hdeadline.trans ?_⟩
    · rw [Option.any_map]
    · rw [Option.bind_map]
      rfl

/-- Has the end of the key come by the unix time `wallLater`, where the unix time is `wall` when the
clock of the store shows `now`? -/
def Ended [Clock] (s : Store) (now wall wallLater : Nat) (d k : String) : Prop :=
  ∃ x, s.deadline? d k = some x ∧ wallTime now wall x ≤ wallLater

/-- The ends of all keys fit in 64 bits for a long time. -/
lemma longestLife_lt : longestLife < 2 ^ 64 := by
  decide +kernel

/-- **A copy follows the store** it was made of, and the keys whose end has come are lost. -/
theorem ReachedBy.follows_copy [Clock] {s : Store} {now wall version : Nat} {data : Bytes}
    (hreached : ReachedBy now s) (hdump : s.dump now wall = .ok (version, data))
    (htimely : wall + longestLife < 2 ^ 64) (t : Store) (later : Nat)
    {wallLater moment : Nat} (late : Nat → Nat → Prop)
    (hlate : ∀ d k x, s.deadline? d k = some x → ¬ wallTime now wall x ≤ wallLater →
      late x (deadlineAfter later (wallTime now wall x - wallLater)))
    (hmoment : ∀ d k x, s.deadline? d k = some x → wallTime now wall x ≤ wallLater → x ≤ moment) :
    ∃ copy, t.replace later wallLater version data = (.ok (), copy) ∧
      copy.revision = s.revision ∧ copy.authority = t.authority ∧
      Follows late moment (s.Ended now wall wallLater) s copy := by
  have htidy := hreached.reachable.tidy
  have hfits : ∀ d k x, s.deadline? d k = some x → wallTime now wall x < 256 ^ 8 := by
    intro d k x hx
    have hleft := wholeMillis_sub_le (hreached.endsBy d k x hx)
    unfold wallTime
    omega
  obtain ⟨copy, hreplace, hversion, -, hauthority, hcontents⟩ :=
    replace_dump hdump hfits t later wallLater
  refine ⟨copy, hreplace, hversion, hauthority, ?_⟩
  have hgone : ∀ d k, s.Ended now wall wallLater d k → copy.value? d k = none := by
    rintro d k ⟨x, hx, hended⟩
    rw [(hcontents d k).1, hx]
    simp [hended]
  constructor
  · intro d k hkept
    rw [(hcontents d k).1]
    cases hx : s.deadline? d k with
    | none => rfl
    | some x =>
      have hlasting : ¬ wallTime now wall x ≤ wallLater := fun hended => hkept ⟨x, hx, hended⟩
      simp [hlasting]
  · intro d k hkept
    rw [(hcontents d k).2]
    cases hx : s.deadline? d k with
    | none =>
      simp only [Option.bind_none, Option.bind_fun_none]
      exact paired_none
    | some x =>
      have hlasting : ¬ wallTime now wall x ≤ wallLater := fun hended => hkept ⟨x, hx, hended⟩
      obtain ⟨value, hvalue⟩ := (s.has_iff d k).mp (htidy.held d k x hx)
      rw [hvalue, Option.bind_some, Option.bind_some, if_neg hlasting]
      exact paired_some (hlate d k x hx hlasting)
  · rintro d k ⟨x, hx, hended⟩
    exact ⟨htidy.held d k x hx, x, hx, hmoment d k x hx hended⟩
  · intro d k hended
    refine .inl ?_
    rw [typeOf, hgone d k hended]
    rfl

end Store

end ReplicatedStore
