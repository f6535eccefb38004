import ReplicatedStore.Proofs.Store.Outcome
import ReplicatedStore.Store.Persistence

/-!
# All that happens to a store

Clients, the clock, files and replication each change a store in their own way; `Action` is all of
these ways as one type, and `Reachable` the stores that they lead to, whatever the clock shows.

Most actions are *work*: they move the version only by commits, and the journal only by what these
commits record.  `Action.changes` says which changes an action makes, recorded or not, and
`Action.commits` that work accounts for them: their versions follow the version of the store one by
one, and the journal gets all of them while it records and none while it does not.
-/

namespace ReplicatedStore.Store

/-- One thing that can happen to a store. -/
inductive Action where
  /-- A client's operation on a database is carried out or refused. -/
  | perform (op : Operation) (pick : Nat) (db : String)
  /-- A database is made to exist without a change being counted. -/
  | ensure (db : String)
  /-- Keys whose deadline has passed are removed. -/
  | expirePass
  /-- A snapshot takes the place of the contents. -/
  | restore (wall : Nat) (snapshot : Snapshot)
  /-- An encoded snapshot, or what claims to be one, takes the place of the contents. -/
  | replace (wall version : Nat) (data : Bytes)
  /-- A seed is loaded. -/
  | loadSeed (entries : List SeedEntry)
  /-- A command is counted. -/
  | recordOperation
  /-- A command for replicas is recorded without a version. -/
  | journalUnversioned (db command : String)
  /-- The flag for changes is read and cleared. -/
  | takeChanged
  /-- Recording is turned on or off. -/
  | setRecording (recording : Bool)
  /-- The recorded changes are taken. -/
  | takeJournal
  /-- A save is noted. -/
  | markSaved (wall mark : Nat)

/-- The changes that removing keys makes in a store of the given version. -/
def removals (version : Nat) : List Ending → List Change
  | [] => []
  | e :: rest =>
    (Operation.remove [e.key]).toChange e.db (version + 1) :: removals (version + 1) rest

namespace Action

/-- The store after an action at the time `now`. -/
def run [Clock] (now : Nat) (s : Store) : Action → Store
  | .perform op pick db => (op.perform s now pick db).2
  | .ensure db => s.ensure db
  | .expirePass => (s.expirePass now).2
  | .restore wall snapshot => s.restore now wall snapshot
  | .replace wall version data => (s.replace now wall version data).2
  | .loadSeed entries => s.loadSeed entries
  | .recordOperation => s.recordOperation
  | .journalUnversioned db command => s.journalUnversioned db command
  | .takeChanged => s.takeChanged.2
  | .setRecording recording => s.setRecording recording
  | .takeJournal => s.takeJournal.2
  | .markSaved wall mark => s.markSaved wall mark

/-- Work is what neither sets the version nor takes hold of the journal. -/
def isWork : Action → Bool
  | .replace _ _ _ | .loadSeed _ | .setRecording _ | .takeJournal => false
  | _ => true

/-- The changes that an action at the time `now` makes, whether they are recorded or not. -/
def changes (now : Nat) (s : Store) : Action → List Change
  | .perform op pick db =>
    match op.outcome s pick db with
    | .refused _ _ => []
    | .made recorded _ => [recorded.toChange db (s.revision + 1)]
  | .expirePass => if s.authority then removals s.revision (s.agenda.due now) else []
  | .journalUnversioned db command => [⟨db, command, [], none⟩]
  | _ => []

end Action

/-- The versions that changes carry. -/
def versionsOf (changes : List Change) : List Nat :=
  changes.filterMap Change.version

@[simp] lemma versionsOf_nil : versionsOf [] = [] := rfl

@[simp] lemma versionsOf_append (cs ds : List Change) :
    versionsOf (cs ++ ds) = versionsOf cs ++ versionsOf ds :=
  List.filterMap_append

/-- The versions above the first one up to the second one, in order. -/
def versionsBetween (low high : Nat) : List Nat :=
  List.range' (low + 1) (high - low)

@[simp] lemma mem_versionsBetween {low high v : Nat} :
    v ∈ versionsBetween low high ↔ low < v ∧ v ≤ high := by
  rw [versionsBetween, List.mem_range'_1]
  omega

@[simp] lemma versionsBetween_self (version : Nat) : versionsBetween version version = [] := by
  simp [versionsBetween]

lemma versionsBetween_succ (version : Nat) :
    versionsBetween version (version + 1) = [version + 1] := by
  simp [versionsBetween]

lemma versionsBetween_append {low mid high : Nat} (hlow : low ≤ mid) (hhigh : mid ≤ high) :
    versionsBetween low mid ++ versionsBetween mid high = versionsBetween low high := by
  unfold versionsBetween
  rw [show mid + 1 = low + 1 + 1 * (mid - low) by omega, List.range'_append]
  congr 1
  omega

lemma versionsBetween_eq_cons {low high v : Nat} {rest : List Nat}
    (h : v :: rest = versionsBetween low high) :
    v = low + 1 ∧ low < high ∧ rest = versionsBetween (low + 1) high := by
  have hlt : low < high := by
    have hmem := mem_versionsBetween.mp (h ▸ List.mem_cons_self)
    omega
  rw [versionsBetween, show high - low = (high - (low + 1)) + 1 by omega, List.range'_succ,
    List.cons.injEq] at h
  exact ⟨h.1, hlt, h.2⟩

/-- Of the versions between two, those above a third one. -/
lemma filter_versionsBetween {low mid high : Nat} (hlow : low ≤ mid) (hhigh : mid ≤ high) :
    (versionsBetween low high).filter (mid < ·) = versionsBetween mid high := by
  have hold : (versionsBetween low mid).filter (mid < ·) = [] := by
    rw [List.filter_eq_nil_iff]
    intro v hv
    rw [mem_versionsBetween] at hv
    simp only [decide_eq_true_eq]
    omega
  have hnew : (versionsBetween mid high).filter (mid < ·) = versionsBetween mid high := by
    rw [List.filter_eq_self]
    intro v hv
    rw [mem_versionsBetween] at hv
    simp only [decide_eq_true_eq]
    omega
  rw [← versionsBetween_append hlow hhigh, List.filter_append, hold, hnew, List.nil_append]

/-- A store accounts for changes on its way to another: their versions follow its own one by one up
to the version of the other, and the journal keeps them if it records. -/
structure Commits (s : Store) (changes : List Change) (t : Store) : Prop where
  revision_le : s.revision ≤ t.revision
  versions : versionsOf changes = versionsBetween s.revision t.revision
  recording : t.journal.recording = s.journal.recording
  pending : t.journal.pending = s.journal.pending ++ if s.journal.recording then changes else []

/-- Nothing is made where neither the version nor the journal moves. -/
lemma Commits.of_eq {s t : Store} (hversion : t.revision = s.revision)
    (hjournal : t.journal = s.journal) : s.Commits [] t where
  revision_le := Nat.le_of_eq hversion.symm
  versions := by simp [hversion]
  recording := by rw [hjournal]
  pending := by simp [hjournal]

lemma Commits.trans {s t u : Store} {cs ds : List Change} (h : s.Commits cs t)
    (g : t.Commits ds u) : s.Commits (cs ++ ds) u where
  revision_le := Nat.le_trans h.revision_le g.revision_le
  versions := by
    rw [versionsOf_append, h.versions, g.versions,
      versionsBetween_append h.revision_le g.revision_le]
  recording := g.recording.trans h.recording
  pending := by
    rw [g.pending, h.pending, h.recording, List.append_assoc]
    split <;> simp

/-- A commit accounts for the change that it records. -/
lemma commits_commit (s : Store) (op : Operation) (db : String) :
    s.Commits [op.toChange db (s.revision + 1)] (s.commit db op.command (op.arguments db)) where
  revision_le := by simp
  versions := by
    rw [revision_commit, versionsBetween_succ]
    rfl
  recording := by simp
  pending := s.pending_commit db op.command (op.arguments db)

lemma SameCounters.commits {s t : Store} (h : SameCounters s t) : s.Commits [] t :=
  .of_eq h.revision h.journal

/-- An operation accounts for the change that its outcome names. -/
lemma perform_commits [Clock] (s : Store) (now : Nat) (op : Operation) (pick : Nat) (db : String) :
    s.Commits ((Action.perform op pick db).changes now s) (op.perform s now pick db).2 := by
  rcases Operation.perform_cases s now pick db op with
    ⟨fault, edits, hout, hresult⟩ | ⟨recorded, edits, answer, hout, hresult⟩
  · rw [Action.changes, hout, hresult]
    exact (s.sameCounters_edit now edits).commits
  · rw [Action.changes, hout, hresult]
    have hsame := s.sameCounters_edit now edits
    have hcommit := (s.edit now edits).commits_commit recorded db
    rw [hsame.revision] at hcommit
    exact hsame.commits.trans hcommit

/-- No operation touches the authority of a store. -/
@[simp] lemma authority_perform [Clock] (s : Store) (now : Nat) (op : Operation) (pick : Nat)
    (db : String) : (op.perform s now pick db).2.authority = s.authority := by
  rcases Operation.perform_cases s now pick db op with
    ⟨fault, edits, -, hresult⟩ | ⟨recorded, edits, answer, -, hresult⟩
  · rw [hresult]
    exact (s.sameCounters_edit now edits).authority
  · rw [hresult, authority_commit, (s.sameCounters_edit now edits).authority]

@[simp] lemma authority_endKey (s : Store) (e : Ending) : (s.endKey e).authority = s.authority := by
  unfold endKey
  split
  · exact s.authority_perform 0 (.remove [e.key]) 0 e.db
  · rfl

/-- On the authority the end of a key is the operation that removes it. -/
lemma endKey_of_authority {s : Store} (h : s.authority) (e : Ending) :
    s.endKey e = ((Operation.remove [e.key]).perform s 0 0 e.db).2 :=
  if_pos h

/-- Elsewhere it leaves no trace but the missing key. -/
lemma endKey_of_not_authority {s : Store} (h : ¬ s.authority) (e : Ending) :
    s.endKey e = s.discard e.db e.key :=
  if_neg h

lemma revision_endKey (s : Store) (e : Ending) :
    (s.endKey e).revision = s.revision + s.authority.toNat := by
  by_cases h : s.authority
  · have hends := Operation.perform_outcome s 0 0 e.db (.remove [e.key])
    obtain ⟨answer, hresult⟩ := hends
    rw [endKey_of_authority h, hresult, revision_commit, (s.sameCounters_edit 0 _).revision, h]
    rfl
  · rw [endKey_of_not_authority h, eq_false_of_ne_true h]
    rfl

/-- The authority records the removal of every key whose end has come, another node none. -/
lemma endKeys_commits (s : Store) (endings : List Ending) :
    s.Commits (if s.authority then removals s.revision endings else [])
      (endings.foldl endKey s) := by
  induction endings generalizing s with
  | nil =>
    have hnone : (if s.authority then removals s.revision [] else []) = [] := by
      split <;> rfl
    rw [hnone]
    exact .of_eq rfl rfl
  | cons e rest ih =>
    have hrest := ih (s.endKey e)
    rw [authority_endKey, revision_endKey] at hrest
    rw [List.foldl_cons]
    by_cases hauthority : s.authority
    · have hfirst := s.perform_commits 0 (.remove [e.key]) 0 e.db
      rw [← endKey_of_authority hauthority] at hfirst
      rw [if_pos hauthority]
      rw [if_pos hauthority, hauthority] at hrest
      exact hfirst.trans hrest
    · have hfirst : s.Commits [] (s.endKey e) := by
        rw [endKey_of_not_authority hauthority]
        exact .of_eq rfl rfl
      rw [if_neg hauthority] at hrest ⊢
      exact hfirst.trans hrest

/-- Putting a snapshot in place of the contents moves no counter of changes. -/
lemma sameCounters_restore [Clock] (s : Store) (now wall : Nat) (snapshot : Snapshot) :
    SameCounters s (s.restore now wall snapshot) := by
  have hfold : ∀ (endings : List Ending) (t : Store), SameCounters s t →
      SameCounters s (endings.foldl (restoreEnd now wall) t) := by
    intro endings
    induction endings with
    | nil => exact fun t ht => ht
    | cons e rest ih =>
      intro t ht
      refine ih _ (ht.trans ?_)
      unfold restoreEnd
      split
      · exact ⟨rfl, rfl, rfl, rfl⟩
      · split <;> exact ⟨rfl, rfl, rfl, rfl⟩
  have hbare : SameCounters s
      ({ s with databases := snapshot.values, agenda := Agenda.empty }.ensure defaultDatabase) :=
    ⟨rfl, rfl, rfl, rfl⟩
  exact (hfold _ _ hbare).trans ⟨rfl, rfl, rfl, rfl⟩

/-- Work accounts for its changes. -/
lemma Action.commits [Clock] {a : Action} (h : a.isWork) (now : Nat) (s : Store) :
    s.Commits (a.changes now s) (a.run now s) := by
  cases a with
  | perform op pick db => exact s.perform_commits now op pick db
  | expirePass => exact s.endKeys_commits (s.agenda.due now)
  | journalUnversioned db command =>
    constructor
    · simp [Action.run, Store.journalUnversioned]
    · simp [Action.run, Action.changes, Store.journalUnversioned, versionsOf]
    · simp [Action.run, Store.journalUnversioned]
    · exact s.pending_record _
  | ensure db => exact .of_eq rfl rfl
  | restore wall snapshot => exact (s.sameCounters_restore now wall snapshot).commits
  | recordOperation => exact .of_eq rfl rfl
  | takeChanged => exact .of_eq rfl rfl
  | markSaved wall mark => exact .of_eq rfl rfl
  | replace wall version data => cases h
  | loadSeed entries => cases h
  | setRecording recording => cases h
  | takeJournal => cases h

/-- The stores that a new one can become, whatever the clock shows at each action. -/
inductive Reachable [Clock] : Store → Prop where
  /-- A new store. -/
  | new (authority : Bool) : Reachable (new authority)
  /-- A reachable store after one more action. -/
  | run {s : Store} (h : Reachable s) (now : Nat) (a : Action) : Reachable (a.run now s)

lemma Reachable.runs [Clock] {s : Store} (h : Reachable s) (now : Nat) (actions : List Action) :
    Reachable (actions.foldl (Action.run now) s) := by
  induction actions generalizing s with
  | nil => exact h
  | cons a rest ih => exact ih (h.run now a)

end ReplicatedStore.Store
