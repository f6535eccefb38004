import ReplicatedStore.Node.Basic
import ReplicatedStore.Proofs.Store.Lockstep
import ReplicatedStore.Proofs.Store.Restore
import ReplicatedStore.Proofs.Store.Seeding

/-!
# What a save leaves to be saved

A save takes two steps.  In the first it takes the contents of the store and a *mark*, the count of
change operations at that moment; in the second, when the file is written, it notes the mark.  The
store may be used between the steps, and what changes then is not in the file.

The mark accounts for that: behind a save the store counts the change operations since the contents
were taken, however many were made while the file was written.  The flag for changes does not.  The
second step clears it, so that it tells of what changes after that step and of nothing else
(`Store.counts_unsaved`); a change that was made in between is not shown by it
(`Store.not_flag_shows_unsaved`).
-/

namespace ReplicatedStore.Store

/-! ## The two steps -/

/-- What a save has in hand while it writes its file. -/
structure Saving where
  /-- The contents that are written. -/
  snapshot : Snapshot
  /-- The count of change operations that they hold. -/
  mark : Nat

/-- The first step takes the contents and the count at one moment. -/
def startSave (s : Store) (now wall : Nat) : Saving :=
  ⟨s.snapshot now wall, s.changeOperations⟩

/-- The second step notes that what was taken is saved. -/
def finishSave (s : Store) (saving : Saving) (wall : Nat) : Store :=
  s.markSaved wall saving.mark

/-- A node to which nothing happens in between takes both steps at once. -/
lemma save_of_written {n : Node} {around : Surroundings} {data : Bytes} {directory : Directory}
    (hdata : (n.store.startSave around.now around.wall).snapshot.encode = .ok data)
    (hwrite : n.directory.write n.config.snapshotFile data = .ok directory) :
    n.save around = (.ok (), { n with
      directory
      store := n.store.finishSave (n.store.startSave around.now around.wall) around.wall }) := by
  rw [startSave] at hdata
  rw [Node.save, hdata]
  dsimp only
  rw [hwrite]
  rfl

/-! ## What a call counts -/

namespace Call

/-- How many change operations a call at the time `now` counts: one for each change that it commits,
and one for each value of a seed. -/
def counted (now : Nat) (s : Store) : Call → Nat
  | .act (.loadSeed entries) => entries.countP SeedEntry.isValue
  | c => (versionsOf (c.changes now s)).length

/-- Does a call at the time `now` change what a file would hold: does it commit a change, load a
seed, or put an encoded snapshot in place of the contents? -/
def alters (now : Nat) (s : Store) : Call → Bool
  | .act (.loadSeed _) => true
  | .act (.replace _ _ data) => (Snapshot.decode data).isOk
  | c => !(versionsOf (c.changes now s)).isEmpty

/-- Does the call note a save or take the flag for changes? -/
def takesFlag : Call → Bool
  | .act .takeChanged | .act (.markSaved _ _) => true
  | _ => false

end Call

/-- Work moves the count of change operations by the changes that it commits. -/
lemma Action.changeOperations_run {a : Action} (h : a.isWork) (now : Nat) (s : Store) :
    (a.run now s).changeOperations =
      s.changeOperations + (versionsOf (a.changes now s)).length := by
  have hcommits := Action.commits h now s
  have hcounts := Action.counts h now s
  have hle := hcommits.revision_le
  rw [hcommits.versions, length_versionsBetween]
  unfold Counts at hcounts
  omega

lemma changeOperations_replace (s : Store) (now wall version : Nat) (data : Bytes) :
    (s.replace now wall version data).2.changeOperations = s.changeOperations := by
  unfold replace
  split
  · rfl
  · exact (s.sameCounters_restore now wall _).changeOperations

lemma Call.changeOperations_run (c : Call) (now : Nat) (s : Store) :
    (c.run now s).changeOperations = s.changeOperations + c.counted now s := by
  cases c with
  | ask q pick db => rfl
  | act a =>
    cases a with
    | loadSeed entries => exact s.changeOperations_loadSeed entries
    | replace wall version data => exact s.changeOperations_replace now wall version data
    | setRecording recording => rfl
    | takeJournal => rfl
    | _ => exact Action.changeOperations_run rfl now s

/-! ## The notes of a save -/

/-- From `s` to `t` the mark stays, and so does the flag unless it is `raised`. -/
structure KeepsNotes (s : Store) (raised : Prop) (t : Store) : Prop where
  mark : t.saveMark = s.saveMark
  flag : t.changed = true ↔ s.changed = true ∨ raised

namespace KeepsNotes

variable {s t u : Store} {raised later : Prop}

lemma of_same (hmark : t.saveMark = s.saveMark) (hflag : t.changed = s.changed)
    (hquiet : ¬ raised) : s.KeepsNotes raised t :=
  ⟨hmark, by rw [hflag, or_iff_left hquiet]⟩

lemma trans (h : s.KeepsNotes raised t) (g : t.KeepsNotes later u) :
    s.KeepsNotes (raised ∨ later) u :=
  ⟨g.mark.trans h.mark, by rw [g.flag, h.flag, or_assoc]⟩

lemma congr (h : s.KeepsNotes raised t) (hraised : raised ↔ later) : s.KeepsNotes later t :=
  ⟨h.mark, by rw [h.flag, hraised]⟩

end KeepsNotes

lemma keepsNotes_edit (s : Store) (now : Nat) (edits : List Edit) :
    s.KeepsNotes False (s.edit now edits) := by
  induction edits generalizing s with
  | nil => exact .of_same rfl rfl id
  | cons e rest ih =>
    have hfirst : s.KeepsNotes False (e.apply now s) := by
      cases e <;> exact .of_same rfl rfl id
    exact (hfirst.trans (ih _)).congr (or_self_iff)

lemma keepsNotes_record (s : Store) (c : Change) : s.KeepsNotes False (s.record c) := by
  unfold record
  split <;> exact .of_same rfl rfl id

lemma keepsNotes_commit (s : Store) (db command : String) (args : List Bytes) :
    s.KeepsNotes True (s.commit db command args) := by
  have hrecord := keepsNotes_record
    { s with
      revision := s.revision + 1
      changeOperations := s.changeOperations + 1
      changed := true } ⟨db, command, args, some (s.revision + 1)⟩
  exact ⟨hrecord.mark, by simp [commit, hrecord.flag]⟩

/-- An operation raises the flag when it commits. -/
lemma keepsNotes_perform (s : Store) (now : Nat) (op : Operation) (pick : Nat) (db : String) :
    s.KeepsNotes (!(versionsOf ((Action.perform op pick db).changes now s)).isEmpty)
      (op.perform s now pick db).2 := by
  rcases Operation.perform_cases s now pick db op with
    ⟨fault, edits, hout, hresult⟩ | ⟨recorded, edits, answer, hout, hresult⟩
  · rw [Action.changes, hout, hresult]
    exact (s.keepsNotes_edit now edits).congr (by simp)
  · rw [Action.changes, hout, hresult]
    refine ((s.keepsNotes_edit now edits).trans (keepsNotes_commit _ _ _ _)).congr ?_
    simp [versionsOf, Operation.toChange]

/-- So does the end of a key on the authority. -/
lemma keepsNotes_endKeys (s : Store) (endings : List Ending) :
    s.KeepsNotes (s.authority = true ∧ endings ≠ []) (endings.foldl endKey s) := by
  induction endings generalizing s with
  | nil => exact .of_same rfl rfl fun hboth => hboth.2 rfl
  | cons e rest ih =>
    have hfirst : s.KeepsNotes (s.authority = true) (s.endKey e) := by
      by_cases hauthority : s.authority
      · rw [endKey_of_authority hauthority]
        exact (s.keepsNotes_perform 0 (.remove [e.key]) 0 e.db).congr
          (by simp [Action.changes, Operation.outcome, versionsOf, Operation.toChange, hauthority])
      · rw [endKey_of_not_authority hauthority]
        exact .of_same rfl rfl hauthority
    refine (hfirst.trans (ih _)).congr ?_
    rw [authority_endKey, or_iff_left_of_imp And.left]
    simp

lemma keepsNotes_restore (s : Store) (now wall : Nat) (snapshot : Snapshot) :
    s.KeepsNotes False (s.restore now wall snapshot) := by
  have hfold : ∀ (endings : List Ending) (t : Store), s.KeepsNotes False t →
      s.KeepsNotes False (endings.foldl (restoreEnd now wall) t) := by
    intro endings
    induction endings with
    | nil => exact fun t ht => ht
    | cons e rest ih =>
      intro t ht
      have hfirst : t.KeepsNotes False (restoreEnd now wall t e) := by
        unfold restoreEnd
        split
        · exact .of_same rfl rfl id
        · split <;> exact .of_same rfl rfl id
      exact ih _ ((ht.trans hfirst).congr or_self_iff)
  have hbare : s.KeepsNotes False
      ({ s with databases := snapshot.values, agenda := Agenda.empty }.ensure defaultDatabase) :=
    .of_same rfl rfl id
  have hended := hfold (endsOf snapshot) _ hbare
  exact ⟨hended.mark, hended.flag⟩

lemma saveMark_loadSeed (s : Store) (entries : List SeedEntry) :
    (s.loadSeed entries).saveMark = s.saveMark := by
  have hfold : (entries.foldl loadEntry s).saveMark = s.saveMark := by
    induction entries generalizing s with
    | nil => rfl
    | cons entry rest ih =>
      rw [List.foldl_cons, ih]
      cases entry <;> rfl
  exact hfold

/-- A call leaves the mark alone, and raises the flag if it changes what a file would hold; unless
it is one that sets either by itself. -/
lemma Call.keepsNotes {c : Call} (h : c.takesFlag = false) (now : Nat) (s : Store) :
    s.KeepsNotes (c.alters now s) (c.run now s) := by
  have hquiet : ¬ (!(versionsOf []).isEmpty) = true := by decide
  cases c with
  | ask q pick db => exact .of_same rfl rfl hquiet
  | act a =>
    cases a with
    | perform op pick db => exact s.keepsNotes_perform now op pick db
    | expirePass =>
      refine (s.keepsNotes_endKeys (s.agenda.due now)).congr ?_
      simp only [alters, changes, Action.changes]
      split
      · rename_i hauthority
        rw [and_iff_right hauthority]
        cases s.agenda.due now <;> simp [removals, versionsOf, Operation.toChange]
      · rename_i hauthority
        exact iff_of_false (fun hboth => hauthority hboth.1) hquiet
    | replace wall version data =>
      simp only [run, Action.run, replace, alters]
      cases Snapshot.decode data with
      | error fault => exact .of_same rfl rfl Bool.false_ne_true
      | ok snapshot =>
        exact ⟨(s.keepsNotes_restore now wall snapshot).mark, by simp [Except.isOk, Except.toBool]⟩
    | loadSeed entries =>
      exact ⟨s.saveMark_loadSeed entries, by simp [run, Action.run, loadSeed, alters]⟩
    | journalUnversioned db command => exact (s.keepsNotes_record _).congr (iff_of_false id hquiet)
    | restore wall snapshot =>
      exact (s.keepsNotes_restore now wall snapshot).congr (iff_of_false id hquiet)
    | ensure db => exact .of_same rfl rfl hquiet
    | recordOperation => exact .of_same rfl rfl hquiet
    | setRecording recording => exact .of_same rfl rfl hquiet
    | takeJournal => exact .of_same rfl rfl hquiet
    | takeChanged => cases h
    | markSaved wall mark => cases h

/-! ## Runs -/

/-- How many change operations the calls count. -/
def countedAlong : Store → List (Nat × Call) → Nat
  | _, [] => 0
  | s, (now, c) :: rest => c.counted now s + countedAlong (c.run now s) rest

/-- Does any of the calls change what a file would hold? -/
def altersAlong : Store → List (Nat × Call) → Bool
  | _, [] => false
  | s, (now, c) :: rest => c.alters now s || altersAlong (c.run now s) rest

lemma changeOperations_runCalls (s : Store) (calls : List (Nat × Call)) :
    (s.runCalls calls).changeOperations = s.changeOperations + s.countedAlong calls := by
  induction calls generalizing s with
  | nil => rfl
  | cons call rest ih =>
    obtain ⟨now, c⟩ := call
    have hrest := ih (c.run now s)
    rw [Call.changeOperations_run, Nat.add_assoc] at hrest
    exact hrest

lemma keepsNotes_runCalls {calls : List (Nat × Call)} (h : ∀ c ∈ calls, c.2.takesFlag = false)
    (s : Store) : s.KeepsNotes (s.altersAlong calls) (s.runCalls calls) := by
  induction calls generalizing s with
  | nil => exact .of_same rfl rfl Bool.false_ne_true
  | cons call rest ih =>
    obtain ⟨now, c⟩ := call
    have hfirst := Call.keepsNotes (h (now, c) List.mem_cons_self) now s
    have hrest := ih (fun c' hc' => h c' (List.mem_cons_of_mem _ hc')) (c.run now s)
    exact (hfirst.trans hrest).congr (Bool.or_eq_true _ _).symm.to_iff

/-- **What is unsaved is counted.**  Whatever is done between the two steps of a save, the change
operations that this counted are counted as unsaved afterwards, and those of later calls come to
them.  The flag for changes tells of the later calls alone: the second step clears it, although it
leaves in the store what was written in between, and the file holds what was there before. -/
theorem counts_unsaved (s : Store) (now wall later : Nat) (between after : List (Nat × Call))
    (hafter : ∀ c ∈ after, c.2.takesFlag = false) :
    let saving := s.startSave now wall
    let left := s.runCalls between
    let saved := left.finishSave saving later
    saved.changesSinceSave = s.countedAlong between ∧
    (saved.runCalls after).changesSinceSave = s.countedAlong between + saved.countedAlong after ∧
    saved.takeChanged.1 = false ∧
    ((saved.runCalls after).takeChanged.1 = true ↔ saved.altersAlong after) ∧
    ∀ db key, saved.value? db key = left.value? db key ∧
      saving.snapshot.value? db key = s.value? db key := by
  intro saving left saved
  have hbetween : saved.changeOperations = s.changeOperations + s.countedAlong between :=
    s.changeOperations_runCalls between
  have hmark : saved.saveMark = s.changeOperations := rfl
  have hcount := saved.changeOperations_runCalls after
  have hnotes := keepsNotes_runCalls hafter saved
  refine ⟨?_, ?_, rfl, ?_, fun db key => ⟨rfl, s.value?_snapshot now wall db key⟩⟩
  · rw [changesSinceSave, hbetween, hmark, Nat.add_sub_cancel_left]
  · rw [changesSinceSave, hcount, hnotes.mark, hbetween, hmark, Nat.add_assoc,
      Nat.add_sub_cancel_left]
  · have hcleared : ¬ saved.changed = true := Bool.false_ne_true
    rw [takeChanged, hnotes.flag, or_iff_right hcleared]

/-- A store with one key. -/
def keyed : Store :=
  (Action.perform (.set "a" []) 0 "0").run 0 (new true)

/-- Another key is written, and then one that ends at once; a third write is refused. -/
def writingBoth : List (Nat × Call) :=
  [(1, .act (.perform (.set "b" [1]) 0 "0")), (2, .act (.perform (.expire "a" 0) 0 "0")),
    (3, .act (.perform (.push "b" [] .head) 0 "0")), (4, .act .expirePass)]

/-- Three changes are made while the file is written.  They are counted, but the flag is raised only
by the next one. -/
theorem counts_unsaved_meanwhile :
    let saving := keyed.startSave 0 0
    let saved := (keyed.runCalls writingBoth).finishSave saving 5000
    let next : List (Nat × Call) := [(5, .act (.perform (.addMember "c" []) 0 "1"))]
    keyed.Reachable ∧ keyed.altersAlong writingBoth ∧
    (∀ c ∈ next, c.2.takesFlag = false) ∧
    saved.changesSinceSave = 3 ∧ saved.takeChanged.1 = false ∧
    (saved.runCalls next).changesSinceSave = 4 ∧ (saved.runCalls next).takeChanged.1 = true ∧
    saved.value? "0" "b" = some (.string [1]) ∧ saving.snapshot.value? "0" "b" = none := by
  intro saving saved next
  have hnext : ∀ c ∈ next, c.2.takesFlag = false := by decide
  obtain ⟨hcount, hlater, hflag, hraised, hheld⟩ :=
    counts_unsaved keyed 0 0 5000 writingBoth next hnext
  have hthree : keyed.countedAlong writingBoth = 3 := by decide +kernel
  have hone : saved.countedAlong next = 1 := by decide +kernel
  have hwritten : (keyed.runCalls writingBoth).value? "0" "b" = some (.string [1]) := by
    decide +kernel
  refine ⟨(Reachable.new true).run 0 _, by decide +kernel, hnext, hcount.trans hthree, hflag, ?_,
    hraised.mpr (by decide +kernel), (hheld "0" "b").1.trans hwritten,
    (hheld "0" "b").2.trans (by decide +kernel)⟩
  rw [hlater, hthree, hone]

/-- It is not so that the flag is still set behind a save while a change was made that is not in the
file: it is cleared by the second step. -/
theorem not_flag_shows_unsaved :
    ¬ ∀ (s : Store), s.Reachable → ∀ (now wall later : Nat) (between : List (Nat × Call)),
      s.altersAlong between →
        ((s.runCalls between).finishSave (s.startSave now wall) later).takeChanged.1 = true := by
  intro hclaimed
  have hwritten : keyed.altersAlong writingBoth := by decide +kernel
  have hflag := hclaimed keyed ((Reachable.new true).run 0 _) 0 0 0 writingBoth hwritten
  cases hflag

end ReplicatedStore.Store
