import ReplicatedStore.Node.Dispatch
import ReplicatedStore.Proofs.Change.Encoding
import ReplicatedStore.Proofs.Node.Serving

/-!
# What a delivered change does to the store of a replica

A change arrives in a request of its own.  If its version is not the next one it is refused with the
reply "version mismatch" and changes nothing (`delivered_stale`).  If it is, the reply is "OK", and
a store that was a copy of one store of the master, but for lost keys, becomes a copy of the next
one (`delivered_next`).
-/

namespace ReplicatedStore

namespace Change

/-- The operation that a replica carries out for a change, unless it only goes to a database. -/
def operation? (c : Change) : Option Operation :=
  match Command.ofRequest (Request.of c.command c.args) with
  | .ok (.edit op) => some op
  | _ => none

/-- Does the change need the key? -/
def needs (c : Change) (d k : String) : Prop :=
  ∃ op, c.operation? = some op ∧ op.needs c.db d k

/-- Does the change leave the key in a state that does not depend on what was there? -/
def settles (c : Change) (d k : String) : Prop :=
  ∃ op, c.operation? = some op ∧ op.settles c.db d k

end Change

namespace Operation

variable {op : Operation} {db d k : String} {version : Nat}

lemma toCommand_of_ne (h : op ≠ .select) : op.toCommand db = .edit op := by
  cases op <;> first | rfl | exact absurd rfl h

/-- The operation of a recorded change is the one that was recorded. -/
lemma operation?_toChange (hrecordable : op.Recordable) (h : op ≠ .select) :
    (op.toChange db version).operation? = some op := by
  unfold Change.operation? toChange
  rw [Command.ofRequest_recorded hrecordable db, toCommand_of_ne h]

lemma operation?_select : (toChange .select db version).operation? = none := by
  have hrecordable : Operation.select.Recordable := trivial
  unfold Change.operation? toChange
  rw [Command.ofRequest_recorded hrecordable db]
  rfl

lemma needs_toChange (hrecordable : op.Recordable) :
    (op.toChange db version).needs d k ↔ op.needs db d k := by
  by_cases hselect : op = .select
  · subst hselect
    simp [Change.needs, operation?_select, needs]
  · unfold Change.needs
    rw [operation?_toChange hrecordable hselect]
    simp [toChange]

lemma settles_toChange (hrecordable : op.Recordable) :
    (op.toChange db version).settles d k ↔ op.settles db d k := by
  by_cases hselect : op = .select
  · subst hselect
    simp [Change.settles, operation?_select, settles]
  · unfold Change.settles
    rw [operation?_toChange hrecordable hselect]
    simp [toChange]

end Operation

/-- The request that delivers an encoded change. -/
def replayRequest (envelope : Bytes) : Request :=
  ⟨Verb.replay.name, [envelope]⟩

namespace Node

/-! ## Running a recorded change -/

/-- A change is run if its command is one that runs from a change and its arguments can be read. -/
lemma replayChange_eq_runOwn (n : Node) (around : Surroundings) {c : Change} {command : Command}
    (hreplayable : isReplayable c.command)
    (hread : Command.ofRequest (Request.of c.command c.args) = .ok command) :
    n.replayChange around c = (n.runOwn around (Session.replay c.db) command).node := by
  unfold replayChange
  rw [if_pos hreplayable, hread]

/-- A recorded change carries out the operation that it records. -/
lemma replayChange_recorded (n : Node) (around : Surroundings) {op : Operation}
    (h : op.Recordable) (db : String) (version : Nat) :
    n.replayChange around (op.toChange db version) =
      n.withStore (op.perform n.store around.now around.pick db).2 := by
  have hreplayable : isReplayable op.command :=
    isReplayable_iff.mpr ⟨op.verb, op.name_verb.symm, op.isReplayable_verb⟩
  have hran : n.replayChange around (op.toChange db version) = _ :=
    n.replayChange_eq_runOwn around hreplayable (Command.ofRequest_recorded h db)
  rw [hran]
  by_cases hselect : op = .select
  · subst hselect
    simp [Operation.toCommand, runOwn, select, Session.replay, Operation.perform]
  · rw [Operation.toCommand_of_ne hselect]
    rfl

variable {late : Nat → Nat → Prop} {before now : Nat} {lost : String → String → Prop}
  {s u : Store} {c : Change}

/-- What was a copy of the store before the change is one of the store after it. -/
lemma replayChange_follows (n : Node) (around : Surroundings)
    (h : Store.Follows late now lost s n.store) (hversion : n.store.revision = s.revision)
    (hstep : Store.Step before s u [c]) (hneeds : ∀ d k, c.needs d k → ¬ lost d k)
    (hlate : ∀ life,
      late (Store.deadlineAfter before life) (Store.deadlineAfter around.now life)) :
    Store.Follows late now (fun d k => lost d k ∧ ¬ c.settles d k) u
        (n.replayChange around c).store ∧
      (n.replayChange around c).store.revision = u.revision := by
  cases hstep with
  | made op pick db edits recordable suited outcome contents version =>
    obtain ⟨recorded, edits', houtcome, hfollows⟩ := h.replay outcome
      (fun d k hneed => hneeds d k ((Operation.needs_toChange recordable).mpr hneed)) suited
      hlate around.pick
    have hends := Operation.perform_outcome n.store around.now around.pick db op
    rw [houtcome] at hends
    obtain ⟨answer, hresult⟩ := hends
    rw [n.replayChange_recorded around recordable, hresult]
    constructor
    · simp only [Operation.settles_toChange recordable]
      exact hfollows.congr contents (Store.sameContents_commit _ db _ _)
    · rw [store_withStore, Store.revision_commit, (n.store.sameCounters_edit _ _).revision,
        hversion, version]

/-- A recorded change does no more than an operation does. -/
lemma replayChange_performs (n : Node) (around : Surroundings) (hstep : Store.Step before s u [c]) :
    ∃ op db, (n.replayChange around c).store =
      (Operation.perform op n.store around.now around.pick db).2 := by
  cases hstep with
  | made op pick db edits recordable suited outcome contents version =>
    refine ⟨op, db, ?_⟩
    rw [n.replayChange_recorded around recordable]
    rfl

/-! ## Delivering an encoded change -/

/-- A change that arrives is looked at in every session that may run commands. -/
lemma dispatch_replay (n : Node) (around : Surroundings) {session : Session}
    (h : session.authenticated) (envelope : Bytes) :
    (n.dispatch around session (replayRequest envelope)).1 =
        replyOf ((n.withStore n.store.recordOperation).replay around session envelope).answer ∧
      (n.dispatch around session (replayRequest envelope)).2.1.store =
        ((n.withStore n.store.recordOperation).replay around session envelope).node.store := by
  have hcheck : n.check session (replayRequest envelope) = .ok () := by
    unfold check
    rw [h]
    rfl
  have hcommand : Command.ofRequest (replayRequest envelope) = .ok (.replay envelope) := rfl
  unfold dispatch
  rw [hcheck]
  unfold execute
  rw [hcommand]
  exact ⟨rfl, store_saveIfDue _⟩

/-- It is the turn of a change without a version, and of the one with the next version. -/
lemma checkVersion_eq_ok {n : Node} :
    n.checkVersion c = .ok () ↔ c.version = none ∨ c.version = some (n.store.revision + 1) := by
  unfold checkVersion
  cases c.version with
  | none => simp
  | some version => simp

variable {n : Node} (around : Surroundings) {session : Session} {envelope : Bytes}

/-- Octets that are a change whose version is not the next one are refused, and change nothing. -/
lemma dispatch_stale (hdecode : Change.decode envelope = .ok c)
    (hauthenticated : session.authenticated) {version : Nat} (hversion : c.version = some version)
    (hstale : version ≠ n.store.revision + 1) :
    (n.dispatch around session (replayRequest envelope)).1 = .error "version mismatch" ∧
      (n.dispatch around session (replayRequest envelope)).2.1.store =
        n.store.recordOperation := by
  obtain ⟨hreply, hstore⟩ := n.dispatch_replay around hauthenticated envelope
  have hreplay : (n.withStore n.store.recordOperation).replay around session envelope =
      ⟨.error (.store (.versionMismatch version n.store.revision)),
        n.withStore n.store.recordOperation, session⟩ := by
    have hcheck : (n.withStore n.store.recordOperation).checkVersion c =
        .error (.store (.versionMismatch version n.store.revision)) := by
      unfold checkVersion
      rw [hversion]
      exact if_neg hstale
    unfold replay
    rw [hdecode]
    dsimp only
    rw [hcheck]
  rw [hreply, hstore, hreplay]
  exact ⟨rfl, rfl⟩

/-- Octets that are a change whose turn it is are acknowledged, whatever comes of the change. -/
lemma dispatch_turn (hdecode : Change.decode envelope = .ok c)
    (hauthenticated : session.authenticated) (hcheck : n.checkVersion c = .ok ()) :
    (n.dispatch around session (replayRequest envelope)).1 = .ok ∧
      (n.dispatch around session (replayRequest envelope)).2.1.store =
        ((n.withStore n.store.recordOperation).replayChange around c).store := by
  obtain ⟨hreply, hstore⟩ := n.dispatch_replay around hauthenticated envelope
  have hreplay : (n.withStore n.store.recordOperation).replay around session envelope =
      ⟨.ok .ok, (n.withStore n.store.recordOperation).replayChange around c, session⟩ := by
    have hcounted : (n.withStore n.store.recordOperation).checkVersion c = .ok () := hcheck
    unfold replay
    rw [hdecode]
    dsimp only
    rw [hcounted]
  rw [hreply, hstore, hreplay]
  exact ⟨rfl, rfl⟩

/-- A change whose version is not the next one is refused, and changes nothing. -/
lemma delivered_stale (hplain : c.HasPlainVersion) (hencode : c.encode = .ok envelope)
    (hauthenticated : session.authenticated) {version : Nat} (hversion : c.version = some version)
    (hstale : version ≠ n.store.revision + 1) :
    (n.dispatch around session (replayRequest envelope)).1 = .error "version mismatch" ∧
      (n.dispatch around session (replayRequest envelope)).2.1.store =
        n.store.recordOperation :=
  dispatch_stale around (Change.decode_encode hplain hencode) hauthenticated hversion hstale

/-- A change that follows the version is run, whatever comes of it. -/
lemma delivered_run (hplain : c.HasPlainVersion) (hencode : c.encode = .ok envelope)
    (hauthenticated : session.authenticated) (hcheck : n.checkVersion c = .ok ()) :
    (n.dispatch around session (replayRequest envelope)).1 = .ok ∧
      (n.dispatch around session (replayRequest envelope)).2.1.store =
        ((n.withStore n.store.recordOperation).replayChange around c).store :=
  dispatch_turn around (Change.decode_encode hplain hencode) hauthenticated hcheck

lemma checkVersion_next (h : c.version = some (n.store.revision + 1)) :
    n.checkVersion c = .ok () :=
  checkVersion_eq_ok.mpr (.inr h)

/-- The change whose version is the next one is carried out. -/
lemma delivered_next (h : Store.Follows late now lost s n.store)
    (hversion : n.store.revision = s.revision) (hstep : Store.Step before s u [c])
    (hneeds : ∀ d k, c.needs d k → ¬ lost d k)
    (hlate : ∀ life,
      late (Store.deadlineAfter before life) (Store.deadlineAfter around.now life))
    (hplain : c.HasPlainVersion) (hencode : c.encode = .ok envelope)
    (hauthenticated : session.authenticated) :
    (n.dispatch around session (replayRequest envelope)).1 = .ok ∧
      Store.Follows late now (fun d k => lost d k ∧ ¬ c.settles d k) u
        (n.dispatch around session (replayRequest envelope)).2.1.store ∧
      (n.dispatch around session (replayRequest envelope)).2.1.store.revision = u.revision ∧
      ∃ op db, (n.dispatch around session (replayRequest envelope)).2.1.store =
        (Operation.perform op n.store.recordOperation around.now around.pick db).2 := by
  have hnext : c.version = some (n.store.revision + 1) := by
    rw [hversion]
    exact hstep.version_eq.2
  obtain ⟨hreply, hstore⟩ :=
    delivered_run around hplain hencode hauthenticated (checkVersion_next hnext)
  rw [hreply, hstore]
  have hcounted : Store.Follows late now lost s (n.withStore n.store.recordOperation).store :=
    h.congr (.refl s) (.refl n.store)
  obtain ⟨hfollows, hlevel⟩ := replayChange_follows (n.withStore n.store.recordOperation) around
    hcounted hversion hstep hneeds hlate
  exact ⟨rfl, hfollows, hlevel,
    replayChange_performs (n.withStore n.store.recordOperation) around hstep⟩

end Node

end ReplicatedStore
