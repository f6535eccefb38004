import ReplicatedStore.Proofs.Node.WriteGate
import ReplicatedStore.Proofs.Store.Alike
import ReplicatedStore.Proofs.Store.Deadlines

/-!
# What a request may do to the stream of changes

Whatever is asked of a node, in whatever session, its store takes at most one turn
(`Node.dispatch_turns`): nothing changes, or replicas are told to save or to stop, or one change is
made that leads from the store before to the store after; and the journal gets just that, if it
records.  Changes that arrive from a master are no exception, nor are those that fail in the middle.

Two requests are.  Attaching a replica turns recording on or off, and replacing the whole store by a
snapshot is no change that replicas could be told.
-/

namespace ReplicatedStore

open Store (Alike Commits Leads SameContents)

/-- The change only tells replicas to save or to stop. -/
structure Change.IsNotice (c : Change) : Prop where
  unversioned : c.version = none
  bare : c.args = []
  named : c.command ∈ [Verb.save.name, Verb.saveLater.name, Verb.shutdown.name]

namespace Store

/-- From one store to the next, with what replicas are to be told. -/
inductive Turn (s t : Store) : List Change → Prop where
  /-- Nothing is changed. -/
  | quiet (alike : Alike s t) (version : t.revision = s.revision) : Turn s t []
  /-- Nothing is changed, but replicas are told to do something. -/
  | noticed (c : Change) (notice : c.IsNotice) (alike : Alike s t)
      (version : t.revision = s.revision) : Turn s t [c]
  /-- A change is made. -/
  | made (c : Change) (leads : Leads s t c) : Turn s t [c]

/-- What replicas are told is a notice, or a change with the version that the store comes to. -/
lemma Turn.told {s t : Store} {changes : List Change} (h : Turn s t changes) :
    ∀ c ∈ changes, c.IsNotice ∨ c.version = some t.revision := by
  cases h with
  | quiet alike version => simp
  | noticed c notice alike version =>
    intro d hd
    rw [List.mem_singleton.mp hd]
    exact .inl notice
  | made c leads =>
    intro d hd
    rw [List.mem_singleton.mp hd, leads.version_eq.1]
    exact .inr leads.version_eq.2

/-- The store takes a turn, and its journal gets what replicas are to be told. -/
def Turns (s t : Store) : Prop :=
  ∃ changes, Turn s t changes ∧ s.Commits changes t

namespace Turns

variable {s t u : Store}

lemma quiet (hcontents : SameContents s t) (hversion : t.revision = s.revision)
    (hjournal : t.journal = s.journal) : Turns s t :=
  ⟨[], .quiet (.of_same hcontents) hversion, .of_eq hversion hjournal⟩

lemma refl (s : Store) : Turns s s :=
  .quiet (.refl s) rfl rfl

/-- What happens before a turn without any effect is part of it. -/
lemma after (h : Turns t u) (hcontents : SameContents s t) (hversion : t.revision = s.revision)
    (hjournal : t.journal = s.journal) : Turns s u := by
  obtain ⟨changes, hturn, hcommits⟩ := h
  have halike : Alike s t := .of_same hcontents
  refine ⟨changes, ?_, (Commits.of_eq hversion hjournal).trans hcommits⟩
  cases hturn with
  | quiet alike version => exact .quiet (halike.trans alike) (version.trans hversion)
  | noticed c notice alike version =>
    exact .noticed c notice (halike.trans alike) (version.trans hversion)
  | made c leads => exact .made c (leads.congr halike.symm hversion.symm (.refl u) rfl)

/-- An operation that was asked for is a turn. -/
lemma perform (s : Store) (now : Nat) (op : Operation) (pick : Nat) (db : String)
    (hrecordable : op.Recordable) : Turns s (op.perform s now pick db).2 := by
  have hcommits := s.perform_commits now op pick db
  refine ⟨_, ?_, hcommits⟩
  rcases Operation.perform_cases s now pick db op with
    ⟨fault, edits, hout, hresult⟩ | ⟨recorded, edits, answer, hout, -⟩
  · rw [Action.changes, hout, hresult]
    exact .quiet (.of_same (s.sameContents_of_ensures now (refused_edits hout)))
      (s.sameCounters_edit now edits).revision
  · rw [Action.changes, hout]
    exact .made _ (leads_perform hrecordable hout)

/-- Telling replicas to save or to stop is a turn. -/
lemma notice (s : Store) (db : String) {command : String}
    (h : command ∈ [Verb.save.name, Verb.saveLater.name, Verb.shutdown.name]) :
    Turns s (s.journalUnversioned db command) := by
  have huntouched := s.untouched_journalUnversioned db command
  exact ⟨[⟨db, command, [], none⟩],
    .noticed _ ⟨rfl, rfl, h⟩ (.of_same huntouched.contents) huntouched.revision,
    Action.commits (a := .journalUnversioned db command) rfl 0 s⟩

end Turns

end Store

open Store (Turns)

/-! ## Commands -/

namespace Command

/-- Running the command is a turn, unless it replaces the whole store. -/
def TakesTurn : Command → Prop
  | .edit op => op.Recordable
  | .replaceAll _ _ => False
  | _ => True

lemma IsChange.takesTurn {s : Store} {db : String} {command : Command}
    (h : command.IsChange s db) : command.TakesTurn := by
  cases command with
  | edit op => exact h.1
  | replaceAll version data => exact h.elim
  | _ => trivial

lemma IsPassive.takesTurn {command : Command} (h : command.IsPassive) : command.TakesTurn := by
  cases command with
  | edit op => exact h.elim
  | replaceAll version data => exact h.elim
  | _ => trivial

/-- Whatever is read for any verb but the one that replaces the store takes a turn. -/
lemma yields_takesTurn {v : Verb} (h : v ≠ .replaceAll) :
    Yields (readArguments v) TakesTurn := by
  by_cases hnew : v = .setNew
  · subst hnew
    exact .after _ fun _ => .after _ fun _ => .pure trivial
  by_cases hreplay : v = .replay
  · subst hreplay
    exact .after _ fun _ => .pure trivial
  by_cases hasks : v.asksChange
  · intro args command rest hrun
    exact (yields_isChange hasks hnew (Store.new true) "" args command rest hrun).takesTurn
  · obtain ⟨hread, hselect⟩ : v.descriptor.access ≠ .write ∧ v ≠ .select := by
      simpa [Verb.asksChange] using hasks
    intro args command rest hrun
    exact (yields_passive hread hselect hreplay h args command rest hrun).takesTurn

/-- Replacing the store is no command that replicas run as a recorded change. -/
lemma takesTurn_of_isReplayable {name : String} {args : List Bytes} {command : Command}
    (hreplayable : Node.isReplayable name) (h : ofRequest (Request.of name args) = .ok command) :
    command.TakesTurn := by
  obtain ⟨v, rfl, hruns⟩ := Node.isReplayable_iff.mp hreplayable
  obtain ⟨rest, hrun⟩ := run_of_ofRequest (v.ofName?_request args) h
  have hreplace : v ≠ .replaceAll := by
    rintro rfl
    cases hruns
  exact yields_takesTurn hreplace _ _ _ hrun

/-- What a request is read as takes a turn, or replaces the store. -/
lemma takesTurn_of_ofRequest {r : Request} {command : Command} (h : ofRequest r = .ok command) :
    command.TakesTurn ∨ ∃ version data, command = .replaceAll version data := by
  cases hverb : Verb.ofName? r.name with
  | none =>
    rw [ofRequest, hverb] at h
    cases h
  | some v =>
    obtain ⟨rest, hrun⟩ := run_of_ofRequest hverb h
    by_cases hreplace : v = .replaceAll
    · subst hreplace
      have hyields : Yields (readArguments .replaceAll)
          fun command => ∃ version data, command = .replaceAll version data :=
        .after _ fun version => .after _ fun data => .pure ⟨version, data, rfl⟩
      exact .inr (hyields _ _ _ hrun)
    · exact .inl (yields_takesTurn hreplace _ _ _ hrun)

end Command

namespace Node

variable (n : Node) (around : Surroundings) (session : Session)

lemma runOwn_turns {command : Command} (h : command.TakesTurn) :
    Turns n.store (n.runOwn around session command).node.store := by
  cases command with
  | edit op => exact .perform n.store around.now op around.pick session.db h
  | decrement key amount =>
    simp only [runOwn]
    split
    · rename_i hfits
      exact .perform n.store around.now (.add key (-amount)) around.pick session.db hfits
    · exact .refl _
  | select db =>
    simp only [runOwn, select, store_withStore]
    split
    · exact .perform n.store around.now .select around.pick db trivial
    · exact .quiet (fun d k => ⟨n.store.value?_ensure db d k, rfl⟩) rfl rfl
  | save =>
    simp only [runOwn, saveNow, save]
    cases (n.store.snapshot around.now around.wall).encode with
    | error fault => exact .refl _
    | ok data =>
      dsimp only
      cases n.directory.write n.config.snapshotFile data with
      | error fault => exact .refl _
      | ok directory =>
        let saved := n.store.markSaved around.wall n.store.changeOperations
        have hnotice : Turns saved (saved.journalUnversioned session.db Verb.save.name) :=
          .notice saved session.db (by simp)
        exact hnotice.after (.refl n.store) rfl rfl
  | saveLater => exact .notice n.store session.db (by simp)
  | shutdown => exact .notice n.store session.db (by simp)
  | replaceAll version data => exact h.elim
  | _ => exact .refl _

/-- A recorded change may be any command that replicas run, and replacing the store is none. -/
lemma replayChange_turns (c : Change) : Turns n.store (n.replayChange around c).store := by
  unfold replayChange
  split
  · rename_i hreplayable
    cases hcommand : Command.ofRequest (Request.of c.command c.args) with
    | error fault => exact .refl _
    | ok command =>
      exact n.runOwn_turns around _ (Command.takesTurn_of_isReplayable hreplayable hcommand)
  · exact .refl _

lemma run_turns {command : Command} (h : command.TakesTurn) :
    Turns n.store (n.run around session command).node.store := by
  cases command with
  | replay envelope =>
    simp only [run, replay]
    cases Change.decode envelope with
    | error fault => exact .refl _
    | ok c =>
      dsimp only
      cases n.checkVersion c with
      | error refusal => exact .refl _
      | ok _ => exact n.replayChange_turns around c
  | _ => exact n.runOwn_turns around session h

/-! ## Links -/

@[simp] lemma links_saveIfDue : n.saveIfDue.links = n.links := by
  unfold saveIfDue
  split <;> rfl

lemma links_runOwn (command : Command) :
    (n.runOwn around session command).node.links = n.links := by
  cases command with
  | decrement key amount =>
    simp only [runOwn]
    split <;> rfl
  | save =>
    simp only [runOwn, saveNow, save]
    cases (n.store.snapshot around.now around.wall).encode with
    | error fault => rfl
    | ok data =>
      dsimp only
      cases n.directory.write n.config.snapshotFile data <;> rfl
  | replaceAll version data =>
    simp only [runOwn, replaceAll]
    split <;> rfl
  | _ => rfl

lemma links_run (command : Command) : (n.run around session command).node.links = n.links := by
  cases command with
  | replay envelope =>
    simp only [run, replay, replayChange]
    split
    · rfl
    · split
      · rfl
      · split
        · split
          · exact n.links_runOwn around _ _
          · rfl
        · rfl
  | _ => exact n.links_runOwn around session _

/-- Links are made and taken away by attaching only, and by delivering. -/
lemma links_dispatch (r : Request) (hattach : n.attachTarget? session r = none) :
    (n.dispatch around session r).2.1.links = n.links := by
  have hserved := n.served_dispatch around session r
  generalize (n.dispatch around session r).2.1 = after at hserved
  cases hserved with
  | refused => rfl
  | misread => rfl
  | attached passed read =>
    rw [attachTarget?, passed, read] at hattach
    cases hattach
  | ran passed read =>
    rw [links_saveIfDue, links_run]
    rfl

/-! ## Requests -/

/-- The version and the snapshot that the request puts in place of the store, if it passes the
checks. -/
def replacement? (n : Node) (session : Session) (r : Request) : Option (Nat × Snapshot) :=
  match n.check session r, Command.ofRequest r with
  | .ok (), .ok (.replaceAll version data) =>
    match Snapshot.decode data with
    | .ok snapshot => some (version, snapshot)
    | .error _ => none
  | _, _ => none

/-- A request that replaces the store sets its contents and its version, and nothing that the
journal has. -/
lemma dispatch_replacement {r : Request} {version : Nat} {snapshot : Snapshot}
    (h : n.replacement? session r = some (version, snapshot)) :
    (n.dispatch around session r).2.1.store =
      { n.store.recordOperation.restore around.now around.wall snapshot with
        revision := version, changed := true } := by
  cases hcheck : n.check session r with
  | error refusal =>
    rw [replacement?, hcheck] at h
    cases h
  | ok _ =>
    cases hread : Command.ofRequest r with
    | error fault =>
      rw [replacement?, hcheck, hread] at h
      cases h
    | ok command =>
      rw [replacement?, hcheck, hread] at h
      cases command with
      | replaceAll version' data =>
        dsimp only at h
        cases hdecode : Snapshot.decode data with
        | error fault =>
          rw [hdecode] at h
          cases h
        | ok found =>
          rw [hdecode] at h
          cases h
          unfold dispatch
          rw [hcheck]
          dsimp only [execute]
          rw [hread]
          dsimp only
          rw [store_saveIfDue]
          simp only [run, runOwn, replaceAll, Store.replace, hdecode, store_withStore]
      | _ => cases h

/-- **Any other request is a turn of the store**, unless it attaches a replica. -/
theorem dispatch_turns (r : Request) (hattach : n.attachTarget? session r = none)
    (hreplace : n.replacement? session r = none) :
    Turns n.store (n.dispatch around session r).2.1.store := by
  have hcounted : Turns n.store n.store.recordOperation := .quiet (.refl _) rfl rfl
  have hserved := n.served_dispatch around session r
  generalize (n.dispatch around session r).2.1 = after at hserved
  cases hserved with
  | refused => exact .refl _
  | misread => exact hcounted
  | attached passed read =>
    rw [attachTarget?, passed, read] at hattach
    cases hattach
  | ran passed read =>
    rw [store_saveIfDue]
    rcases Command.takesTurn_of_ofRequest read with hturn | ⟨version, data, rfl⟩
    · have hran := (n.withStore n.store.recordOperation).run_turns around session hturn
      exact hran.after (.refl n.store) rfl rfl
    · rw [replacement?, passed, read] at hreplace
      simp only [run, runOwn, replaceAll, Store.replace]
      cases hdecode : Snapshot.decode data with
      | error fault => exact hcounted
      | ok snapshot =>
        dsimp only at hreplace
        rw [hdecode] at hreplace
        cases hreplace

end Node

end ReplicatedStore
