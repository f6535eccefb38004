import ReplicatedStore.Proofs.Change.RoundTrip
import ReplicatedStore.Proofs.Node.Errors
import ReplicatedStore.Proofs.Node.Replaying
import ReplicatedStore.Proofs.Node.Turns

/-!
# Which octets a node takes for a recorded change

Octets that are delivered as a recorded change reach the data of a node through one gate: they must
decode to a change without a version or with the next one, whose command, in small letters, is one
that writes, saves, stops the node or goes to another database (`Node.AdmitsChange`).  All other
octets change nothing but the count of commands, and so do those that hold another recorded change
or a copy of a store: neither is a command that runs from a change.

What passes the gate runs in a session of its own.  The session that delivers it stays in its
database and keeps its rights, and the version grows by one at most.  It does grow when a key
changes, so a change that carries a version leaves a store of that version or no trace in the keys
(`Node.replay_gate`).
-/

namespace ReplicatedStore

/-! ## One turn of the version -/

/-- An operation is refused and leaves the data untouched, or the version is the next one. -/
lemma Store.perform_refused_or_next (s : Store) (now pick : Nat) (db : String) (op : Operation) :
    (∃ fault, (op.perform s now pick db).1 = .error fault ∧
      s.Untouched (op.perform s now pick db).2) ∨
    ((∃ answer, (op.perform s now pick db).1 = .ok answer) ∧
      (op.perform s now pick db).2.revision = s.revision + 1) := by
  rcases Operation.perform_cases s now pick db op with
    ⟨fault, edits, hout, hresult⟩ | ⟨recorded, edits, answer, -, hresult⟩
  · rw [hresult]
    exact .inl ⟨fault, rfl, Operation.untouched_refused now hout⟩
  · rw [hresult, revision_commit, (s.sameCounters_edit now edits).revision]
    exact .inr ⟨⟨answer, rfl⟩, rfl⟩

lemma Store.untouched_or_next_perform (s : Store) (now pick : Nat) (db : String) (op : Operation) :
    s.Untouched (op.perform s now pick db).2 ∨
      (op.perform s now pick db).2.revision = s.revision + 1 := by
  rcases s.perform_refused_or_next now pick db op with ⟨fault, -, huntouched⟩ | ⟨-, hnext⟩
  · exact .inl huntouched
  · exact .inr hnext

namespace Node

variable (n : Node) (around : Surroundings) (session : Session)

/-- A command that runs from a recorded change leaves the data untouched, or the version is the next
one. -/
lemma untouched_or_next_runOwn {command : Command} (h : command.TakesTurn) :
    n.store.Untouched (n.runOwn around session command).node.store ∨
      (n.runOwn around session command).node.store.revision = n.store.revision + 1 := by
  by_cases hpassive : command.IsPassive
  · exact .inl (n.untouched_runOwn around session hpassive)
  cases command with
  | edit op => exact n.store.untouched_or_next_perform around.now around.pick session.db op
  | decrement key amount =>
    simp only [runOwn]
    split
    · exact n.store.untouched_or_next_perform around.now around.pick session.db (.add key (-amount))
    · exact .inl (.refl _)
  | select db =>
    simp only [runOwn, select, store_withStore]
    split
    · exact n.store.untouched_or_next_perform around.now around.pick db .select
    · exact .inl (n.store.untouched_ensure db)
  | replay envelope => exact .inl (.refl _)
  | replaceAll version data => exact h.elim
  | _ => exact absurd trivial hpassive

/-! ## What becomes of octets that are delivered -/

/-- What becomes of octets that are delivered as a recorded change: the reply, and the store that
they leave. -/
inductive Delivered (envelope : Bytes) : Reply → Store → Prop where
  /-- The client has not shown the secret. -/
  | refused (hidden : ¬ session.authenticated) : Delivered envelope
      (.error Refusal.notAuthenticated.message) n.store
  /-- They are no change. -/
  | unread {fault : FormatError} (decoded : Change.decode envelope = .error fault) :
    Delivered envelope (.error fault.message) n.store.recordOperation
  /-- It is not the turn of the change. -/
  | stale {c : Change} {version : Nat} (decoded : Change.decode envelope = .ok c)
      (versioned : c.version = some version) (turn : version ≠ n.store.revision + 1) :
    Delivered envelope (.error "version mismatch") n.store.recordOperation
  /-- It is. -/
  | taken {c : Change} (authenticated : session.authenticated)
      (decoded : Change.decode envelope = .ok c)
      (turn : c.version = none ∨ c.version = some (n.store.revision + 1)) :
    Delivered envelope .ok ((n.withStore n.store.recordOperation).replayChange around c).store

/-- Every delivery ends in one of these ways. -/
lemma delivered_dispatch (envelope : Bytes) :
    n.Delivered around session envelope (n.dispatch around session (replayRequest envelope)).1
      (n.dispatch around session (replayRequest envelope)).2.1.store := by
  by_cases hauthenticated : session.authenticated
  · cases hdecode : Change.decode envelope with
    | error fault =>
      obtain ⟨hreply, hstore⟩ := n.dispatch_replay around hauthenticated envelope
      rw [hreply, hstore]
      unfold replay
      rw [hdecode]
      exact .unread hdecode
    | ok c =>
      by_cases hturn : c.version = none ∨ c.version = some (n.store.revision + 1)
      · obtain ⟨hreply, hstore⟩ :=
          dispatch_turn around hdecode hauthenticated (checkVersion_eq_ok.mpr hturn)
        rw [hreply, hstore]
        exact .taken hauthenticated hdecode hturn
      · obtain ⟨hsome, hother⟩ := not_or.mp hturn
        obtain ⟨version, hversion⟩ := Option.ne_none_iff_exists'.mp hsome
        have hstale : version ≠ n.store.revision + 1 := by
          rintro rfl
          exact hother hversion
        obtain ⟨hreply, hstore⟩ := dispatch_stale around hdecode hauthenticated hversion hstale
        rw [hreply, hstore]
        exact .stale hdecode hversion hstale
  · have hcheck : n.check session (replayRequest envelope) = .error .notAuthenticated := by
      unfold check
      rw [eq_false_of_ne_true hauthenticated]
      rfl
    unfold dispatch
    rw [hcheck]
    exact .refused hauthenticated

/-- A change whose turn it is is passed over, or its command runs. -/
lemma replayChange_cases (c : Change) :
    n.replayChange around c = n ∨
      ∃ command, isReplayable c.command ∧
        Command.ofRequest (Request.of c.command c.args) = .ok command ∧
        n.replayChange around c = (n.runOwn around (Session.replay c.db) command).node := by
  by_cases hreplayable : isReplayable c.command
  · cases hread : Command.ofRequest (Request.of c.command c.args) with
    | error fault =>
      left
      unfold replayChange
      rw [if_pos hreplayable, hread]
    | ok command =>
      exact .inr ⟨command, hreplayable, rfl, n.replayChange_eq_runOwn around hreplayable hread⟩
  · exact .inl (if_neg hreplayable)

/-- The session that delivers is the same after it, unless the node is about to stop. -/
lemma session_delivered (envelope : Bytes) :
    let after := (n.dispatch around session (replayRequest envelope)).2.2
    after = session ∨ after = { session with closing := true } := by
  dsimp only
  obtain ⟨after, hanswered, hsession⟩ := n.answered_dispatch around session (replayRequest envelope)
  have hafter : after = session := by
    clear hsession
    generalize (n.dispatch around session (replayRequest envelope)).1 = reply,
      (n.dispatch around session (replayRequest envelope)).2.1 = left at hanswered
    cases hanswered with
    | refused stopped => rfl
    | misread passed read => rfl
    | attached passed read => rw [session_serveAttach]
    | ran passed read =>
      obtain rfl : Command.replay envelope = _ := Except.ok.inj read
      exact session_run _ _ _ _
  rw [hsession, hafter]
  split
  · exact .inr rfl
  · exact .inl rfl

/-! ## The gate -/

/-- Does the gate for recorded changes let the octets pass, as the change `c`, which names the
command `v`? -/
structure AdmitsChange (envelope : Bytes) (c : Change) (v : Verb) : Prop where
  /-- The client has shown the secret. -/
  authenticated : session.authenticated
  /-- The octets are the change. -/
  decoded : Change.decode envelope = .ok c
  /-- It has no version, or the next one. -/
  turn : c.version = none ∨ c.version = some (n.store.revision + 1)
  /-- Its command is written in small letters. -/
  named : c.command = v.name
  /-- It writes, or is one of four others. -/
  runs : v.descriptor.access = .write ∨ v = .save ∨ v = .saveLater ∨ v = .shutdown ∨ v = .select

section Gate

variable {n : Node} {around : Surroundings} {session : Session} {envelope : Bytes}

/-- A change with a version passes the gate only if that is the next one. -/
lemma AdmitsChange.version_eq {c d : Change} {v : Verb} {version : Nat}
    (h : n.AdmitsChange session envelope c v) (hdecode : Change.decode envelope = .ok d)
    (hversion : d.version = some version) : n.store.revision + 1 = version := by
  obtain rfl := Except.ok.inj (hdecode.symm.trans h.decoded)
  rcases h.turn with hnone | hsome
  · rw [hnone] at hversion
    cases hversion
  · rw [hsome] at hversion
    exact Option.some.inj hversion

/-- What the delivery of any octets does to the store. -/
lemma Delivered.cases {reply : Reply} {left : Store}
    (h : n.Delivered around session envelope reply left) :
    left = n.store ∨ left = n.store.recordOperation ∨
      ((∃ c v, n.AdmitsChange session envelope c v) ∧
        (n.store.Untouched left ∨ left.revision = n.store.revision + 1)) := by
  cases h with
  | refused hidden => exact .inl rfl
  | unread decoded => exact .inr (.inl rfl)
  | stale decoded versioned turn => exact .inr (.inl rfl)
  | taken authenticated decoded turn =>
    rename_i c
    rcases (n.withStore n.store.recordOperation).replayChange_cases around c with
      hpassed | ⟨command, hreplayable, hread, hran⟩
    · rw [hpassed]
      exact .inr (.inl rfl)
    · obtain ⟨v, hname, hruns⟩ := isReplayable_iff.mp hreplayable
      have hadmits : n.AdmitsChange session envelope c v :=
        ⟨authenticated, decoded, turn, hname, Verb.isReplayable_iff.mp hruns⟩
      refine .inr (.inr ⟨⟨c, v, hadmits⟩, ?_⟩)
      rw [hran]
      rcases (n.withStore n.store.recordOperation).untouched_or_next_runOwn around
          (Session.replay c.db) (Command.takesTurn_of_isReplayable hreplayable hread) with
        huntouched | hnext
      · exact .inl (n.store.untouched_recordOperation.trans huntouched)
      · exact .inr hnext

/-- The data is untouched, or the gate let a change pass and the version is the next one. -/
lemma Delivered.untouched_or_next {reply : Reply} {left : Store}
    (h : n.Delivered around session envelope reply left) :
    n.store.Untouched left ∨
      (∃ c v, n.AdmitsChange session envelope c v) ∧ left.revision = n.store.revision + 1 := by
  rcases h.cases with hsame | hsame | ⟨hadmits, huntouched | hnext⟩
  · rw [hsame]
    exact .inl (.refl _)
  · rw [hsame]
    exact .inl n.store.untouched_recordOperation
  · exact .inl huntouched
  · exact .inr ⟨hadmits, hnext⟩

end Gate

/-- **The gate for recorded changes.**  Whatever octets are delivered to a node as a change:

* the store stays what it was, but for the count of commands, unless the gate lets them pass;
* the session that delivers them stays in its database and keeps its rights;
* the version grows by one at most, and if they are a change with a version and a key changes, then
  that is the version of the store. -/
theorem replay_gate (n : Node) (around : Surroundings) (session : Session) (envelope : Bytes) :
    let served := n.dispatch around session (replayRequest envelope)
    let left := served.2.1.store
    (left = n.store ∨ left = n.store.recordOperation ∨
      ∃ c v, n.AdmitsChange session envelope c v) ∧
    (served.2.2.db = session.db ∧ served.2.2.authenticated = session.authenticated) ∧
    (n.store.revision ≤ left.revision ∧ left.revision ≤ n.store.revision + 1) ∧
    ∀ c version, Change.decode envelope = .ok c → c.version = some version →
      (∃ db key, left.value? db key ≠ n.store.value? db key ∨
        left.deadline? db key ≠ n.store.deadline? db key) →
      left.revision = version := by
  intro served left
  have hdelivered : n.Delivered around session envelope served.1 left :=
    n.delivered_dispatch around session envelope
  have hsession : served.2.2 = session ∨ served.2.2 = { session with closing := true } :=
    n.session_delivered around session envelope
  refine ⟨?_, ?_, ?_, ?_⟩
  · rcases hdelivered.cases with hsame | hsame | ⟨hadmits, -⟩
    · exact .inl hsame
    · exact .inr (.inl hsame)
    · exact .inr (.inr hadmits)
  · rcases hsession with hsession | hsession
    · rw [hsession]
      exact ⟨rfl, rfl⟩
    · rw [hsession]
      exact ⟨rfl, rfl⟩
  · rcases hdelivered.untouched_or_next with huntouched | ⟨-, hnext⟩
    · have hversion := huntouched.revision
      omega
    · omega
  · intro c version hdecode hversion hchanged
    obtain ⟨db, key, hkey⟩ := hchanged
    rcases hdelivered.untouched_or_next with huntouched | ⟨⟨d, v, hadmits⟩, hnext⟩
    · -- An untouched store holds every key as it was.
      obtain ⟨hvalue, hdeadline⟩ := huntouched.contents db key
      simp [hvalue, hdeadline] at hkey
    · rw [hnext]
      exact hadmits.version_eq hdecode hversion

/-- A change that sets the key "a" in a store of the first version. -/
def setting : Change :=
  ⟨"0", "set", [Bytes.ofText "a", Bytes.ofText "b"], some 2⟩

/-- The change as octets. -/
def settingEnvelope : Bytes :=
  setting.encode.toOption.getD []

/-- The same change within another one. -/
def nesting : Change :=
  ⟨"0", "do", [settingEnvelope], some 2⟩

/-- The change goes through the gate and the store gets its version; within another change it does
nothing. -/
theorem replay_gate_nested :
    let left (envelope : Bytes) :=
      ((holding false).dispatch .alone (Session.new true) (replayRequest envelope)).2.1.store
    ((left settingEnvelope).value? "0" "a" = some (.string (Bytes.ofText "b")) ∧
      (left settingEnvelope).revision = 2) ∧
    ∃ envelope, nesting.encode = .ok envelope ∧
      (left envelope).value? "0" "a" = some (.string []) ∧ (left envelope).revision = 1 := by
  intro left
  have hheld : (holding false).store.value? "0" "a" = some (.string []) := by decide +kernel
  constructor
  · have hdecode : Change.decode settingEnvelope = .ok setting := by decide +kernel
    have hturn : (holding false).checkVersion setting = .ok () := checkVersion_next rfl
    have hleft : left settingEnvelope = _ := (dispatch_turn .alone hdecode rfl hturn).2
    have hvalue : (left settingEnvelope).value? "0" "a" = some (.string (Bytes.ofText "b")) := by
      rw [hleft]
      decide +kernel
    obtain ⟨-, -, -, hversion⟩ :=
      replay_gate (holding false) .alone (Session.new true) settingEnvelope
    refine ⟨hvalue, hversion setting 2 hdecode rfl ⟨"0", "a", .inl ?_⟩⟩
    rw [hheld]
    exact hvalue.trans_ne (by decide)
  · obtain ⟨envelope, hencode⟩ := nesting.encode_isOk_iff.mpr (by decide +kernel)
    have hplain : nesting.HasPlainVersion := by
      rintro v ⟨⟩
      decide
    have hdecode := Change.decode_encode hplain hencode
    obtain ⟨hleft, -⟩ := replay_gate (holding false) .alone (Session.new true) envelope
    have hkept : left envelope = (holding false).store ∨
        left envelope = (holding false).store.recordOperation := by
      rcases hleft with hsame | hsame | ⟨c, v, hadmits⟩
      · exact .inl hsame
      · exact .inr hsame
      · obtain rfl := Except.ok.inj (hdecode.symm.trans hadmits.decoded)
        have hreplayable : isReplayable "do" :=
          isReplayable_iff.mpr ⟨v, hadmits.named, Verb.isReplayable_iff.mpr hadmits.runs⟩
        exact absurd hreplayable (by decide +kernel)
    refine ⟨envelope, hencode, ?_⟩
    rcases hkept with hsame | hsame
    · rw [hsame]
      exact ⟨hheld, rfl⟩
    · rw [hsame]
      exact ⟨hheld, rfl⟩

end Node

end ReplicatedStore
