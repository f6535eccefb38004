import ReplicatedStore.Proofs.Node.ReplayGate

/-!
# What follows a change that fails

A change whose turn it is may fail on the node that it is delivered to: its command is none that
runs from a change, or its arguments are wrong, or the store refuses it (`Node.Fails`).  The node
acknowledges it all the same and keeps its data, its version included.

That the version stays decides the rest.  A change that does not fail moves the version on, so that
the one after it is in turn; after one that fails only a change of the same version is, or of none.
So when a change with a version fails, the changes that follow it in its stream are refused, however
many there are (`Node.failed_change_stops`), and not only the one that failed is lost
(`Node.not_failed_change_passed_over`).
-/

namespace ReplicatedStore

namespace Command

/-- Does the command change data, or go to another database? -/
def IsTurn : Command → Prop
  | .edit _ | .decrement _ _ | .select _ => True
  | _ => False

/-- Whatever is read for a verb that asks for a change is such a command. -/
lemma yields_isTurn {v : Verb} (h : v.asksChange) : Yields (readArguments v) IsTurn := by
  by_cases hnew : v = .setNew
  · subst hnew
    exact .after _ fun _ => .after _ fun _ => .pure trivial
  · intro args command rest hrun
    have hchange := yields_isChange h hnew (Store.new true) "" args command rest hrun
    cases command with
    | edit op => trivial
    | decrement key amount => trivial
    | select db => trivial
    | _ => exact hchange.elim

end Command

namespace Node

/-! ## Changes that fail -/

/-- The change fails when the node runs it. -/
inductive Fails (n : Node) (around : Surroundings) (c : Change) : Prop where
  /-- Its command is none that runs from a change. -/
  | idle (h : ¬ isReplayable c.command)
  /-- Its arguments are wrong. -/
  | misread {fault : CommandError}
      (read : Command.ofRequest (Request.of c.command c.args) = .error fault)
  /-- Its command is answered by an error. -/
  | refused {command : Command} {message : String}
      (read : Command.ofRequest (Request.of c.command c.args) = .ok command)
      (reply : replyOf (n.runOwn around (Session.replay c.db) command).answer = .error message)
  /-- It moves a key that cannot be moved, which is answered by a zero. -/
  | unmoved {key target : String} {fault : StoreError}
      (read : Command.ofRequest (Request.of c.command c.args) = .ok (.edit (.move key target)))
      (result : ((Operation.move key target).perform n.store around.now around.pick c.db).1 =
        .error fault)

section Fails

variable {n : Node} {around : Surroundings} {session : Session} {c : Change} {command : Command}

lemma untouched_runOwn_error {message : String}
    (h : replyOf (n.runOwn around session command).answer = .error message) :
    n.store.Untouched (n.runOwn around session command).node.store := by
  have hown : n.run around session command = n.runOwn around session command := by
    apply run_eq_runOwn
    rintro envelope rfl
    cases h
  rw [← hown] at h ⊢
  exact n.untouched_run_error around session h

/-- A change that fails leaves the data untouched. -/
lemma Fails.untouched (h : n.Fails around c) :
    n.store.Untouched (n.replayChange around c).store := by
  rcases n.replayChange_cases around c with hpassed | ⟨command, hreplayable, hread, hran⟩
  · rw [hpassed]
    exact .refl _
  rw [hran]
  cases h with
  | idle hidle => exact absurd hreplayable hidle
  | misread read => cases hread.symm.trans read
  | refused read reply =>
    obtain rfl := Except.ok.inj (hread.symm.trans read)
    exact untouched_runOwn_error reply
  | unmoved read result =>
    rename_i key target fault
    obtain rfl := Except.ok.inj (hread.symm.trans read)
    rcases n.store.perform_refused_or_next around.now around.pick c.db (.move key target) with
      ⟨_, -, huntouched⟩ | ⟨⟨answer, hmade⟩, -⟩
    · exact huntouched
    · cases hmade.symm.trans result

/-- What is said of a refused operation is an error, unless it should move a key. -/
lemma replyOf_refuse (op : Operation) (fault : StoreError) :
    (∃ key target, op = .move key target) ∨ replyOf (op.refuse fault) = .error fault.message := by
  cases op with
  | move key target => exact .inl ⟨key, target, rfl⟩
  | _ => exact .inr rfl

/-- An operation that a change runs fails, or the version is the next one. -/
lemma fails_or_next_edit {op : Operation}
    (hread : Command.ofRequest (Request.of c.command c.args) = .ok command)
    (hrun : n.runOwn around (Session.replay c.db) command = n.edit around (Session.replay c.db) op)
    (hmove : ∀ key target, op = .move key target → command = .edit op) :
    n.Fails around c ∨
      (n.runOwn around (Session.replay c.db) command).node.store.revision =
        n.store.revision + 1 := by
  rcases n.store.perform_refused_or_next around.now around.pick c.db op with
    ⟨fault, hrefused, -⟩ | ⟨-, hnext⟩
  · left
    have hanswer : (n.runOwn around (Session.replay c.db) command).answer = op.refuse fault := by
      rw [hrun, edit]
      dsimp only [Session.replay]
      rw [hrefused]
    rcases replyOf_refuse op fault with ⟨key, target, rfl⟩ | hreply
    · rw [hmove key target rfl] at hread
      exact .unmoved hread hrefused
    · rw [← hanswer] at hreply
      exact .refused hread hreply
  · right
    rw [hrun]
    exact hnext

/-- So does every change to the data. -/
lemma fails_or_next (hread : Command.ofRequest (Request.of c.command c.args) = .ok command)
    (hturn : command.IsTurn) :
    n.Fails around c ∨
      (n.runOwn around (Session.replay c.db) command).node.store.revision =
        n.store.revision + 1 := by
  cases command with
  | edit op => exact fails_or_next_edit hread rfl fun _ _ _ => rfl
  | decrement key amount =>
    by_cases hfits : Decimal.fitsSigned64 (-amount)
    · refine fails_or_next_edit hread (if_pos hfits) fun _ _ hmove => ?_
      cases hmove
    · have hanswer : (n.runOwn around (Session.replay c.db) (.decrement key amount)).answer =
          .error (.command (.notInteger (Decimal.ofInt amount))) := by
        rw [runOwn, if_neg hfits]
      exact .inl (.refused hread (congrArg replyOf hanswer))
  | select db =>
    right
    have hrun : (n.runOwn around (Session.replay c.db) (.select db)).node.store =
        n.store.select db := by
      simp [runOwn, select, Session.replay]
    rw [hrun, Store.select, Store.revision_commit]
    rfl
  | _ => exact hturn.elim

/-- A change that does not fail runs, and the version is the next one, unless all that it does is to
save or to stop the node. -/
lemma runs_of_not_fails (h : ¬ n.Fails around c) :
    ∃ command, Command.ofRequest (Request.of c.command c.args) = .ok command ∧
      n.replayChange around c = (n.runOwn around (Session.replay c.db) command).node ∧
      (c.command ∈ [Verb.save.name, Verb.saveLater.name, Verb.shutdown.name] ∨
        (n.replayChange around c).store.revision = n.store.revision + 1) := by
  have hreplayable : isReplayable c.command := by
    by_contra hidle
    exact h (.idle hidle)
  cases hread : Command.ofRequest (Request.of c.command c.args) with
  | error fault => exact absurd (.misread hread) h
  | ok command =>
    have hran := n.replayChange_eq_runOwn around hreplayable hread
    refine ⟨command, rfl, hran, ?_⟩
    obtain ⟨v, hname, hruns⟩ := isReplayable_iff.mp hreplayable
    by_cases hasks : v.asksChange
    · right
      have hverb := v.ofName?_request c.args
      rw [← hname] at hverb
      obtain ⟨rest, hrun⟩ := Command.run_of_ofRequest hverb hread
      rw [hran]
      exact (fails_or_next hread (Command.yields_isTurn hasks _ _ _ hrun)).resolve_left h
    · left
      obtain ⟨hread, hselect⟩ : v.descriptor.access ≠ .write ∧ v ≠ .select := by
        simpa [Verb.asksChange] using hasks
      rw [hname]
      rcases Verb.isReplayable_iff.mp hruns with hwrites | rfl | rfl | rfl | rfl
      · exact absurd hwrites hread
      · simp
      · simp
      · simp
      · exact absurd rfl hselect

end Fails

/-! ## The changes that follow -/

/-- The request delivers a change with another version than the next one. -/
def OutOfTurn (version : Nat) (x : Surroundings × Session × Request) : Prop :=
  x.2.1.authenticated ∧ ∃ envelope c w, x.2.2 = replayRequest envelope ∧
    Change.decode envelope = .ok c ∧ c.version = some w ∧ w ≠ version + 1

/-- It is refused, and changes nothing. -/
lemma OutOfTurn.refused {n : Node} {x : Surroundings × Session × Request}
    (h : OutOfTurn n.store.revision x) :
    (n.dispatch x.1 x.2.1 x.2.2).1 = .error "version mismatch" ∧
      n.store.Untouched (n.dispatch x.1 x.2.1 x.2.2).2.1.store := by
  obtain ⟨hauthenticated, envelope, c, w, hrequest, hdecode, hversion, hstale⟩ := h
  obtain ⟨hreply, hstore⟩ := dispatch_stale x.1 hdecode hauthenticated hversion hstale
  rw [hrequest, hreply, hstore]
  exact ⟨rfl, n.store.untouched_recordOperation⟩

/-- However many there are. -/
lemma untouched_serveAll_outOfTurn {n : Node} {requests : List (Surroundings × Session × Request)}
    (h : ∀ x ∈ requests, OutOfTurn n.store.revision x) :
    n.store.Untouched (n.serveAll requests).store := by
  induction requests generalizing n with
  | nil => exact .refl _
  | cons x rest ih =>
    obtain ⟨-, huntouched⟩ := (h x List.mem_cons_self).refused
    -- The version is still the same, so the rest is out of turn as well.
    refine huntouched.trans (ih fun y hy => ?_)
    rw [huntouched.revision]
    exact h y (List.mem_cons_of_mem _ hy)

/-- The node that runs a delivered change: the delivery has been counted. -/
def counted (n : Node) : Node :=
  n.withStore n.store.recordOperation

/-- A change whose turn it is, and that fails, is acknowledged and leaves the data untouched. -/
lemma acknowledged_of_fails {n : Node} {around : Surroundings} (session : Session)
    {envelope : Bytes} {c : Change} (hauthenticated : session.authenticated)
    (hdecode : Change.decode envelope = .ok c)
    (hturn : c.version = none ∨ c.version = some (n.store.revision + 1))
    (hfails : n.counted.Fails around c) :
    (n.dispatch around session (replayRequest envelope)).1 = .ok ∧
      n.store.Untouched (n.dispatch around session (replayRequest envelope)).2.1.store := by
  obtain ⟨hreply, hstore⟩ :=
    dispatch_turn around hdecode hauthenticated (checkVersion_eq_ok.mpr hturn)
  have hpassed : n.counted.store.Untouched (n.counted.replayChange around c).store :=
    hfails.untouched
  rw [hreply, hstore]
  exact ⟨rfl, n.store.untouched_recordOperation.trans hpassed⟩

/-- **What follows a change that fails.**  A change whose turn it is, and that fails, is
acknowledged and leaves the data and the version as they are.  So after it:

* changes with any other version than the one that was next are refused, one after the other, and
  leave the data as it is;
* whenever a change comes that has this version, or none, and does not fail, it is acknowledged and
  its command runs.  The version is the next one then, unless all that the change does is to save or
  to stop the node. -/
theorem failed_change_stops (n : Node) (around : Surroundings) (session : Session)
    (envelope : Bytes) (c : Change) (hauthenticated : session.authenticated)
    (hdecode : Change.decode envelope = .ok c)
    (hturn : c.version = none ∨ c.version = some (n.store.revision + 1))
    (hfails : n.counted.Fails around c) (requests : List (Surroundings × Session × Request))
    (hrequests : ∀ x ∈ requests, OutOfTurn n.store.revision x) :
    let served := n.dispatch around session (replayRequest envelope)
    let stopped := served.2.1.serveAll requests
    served.1 = .ok ∧ n.store.Untouched stopped.store ∧
    (∀ x, OutOfTurn n.store.revision x →
      (stopped.dispatch x.1 x.2.1 x.2.2).1 = .error "version mismatch") ∧
    ∀ (around : Surroundings) (session : Session) (envelope : Bytes) (d : Change),
      session.authenticated → Change.decode envelope = .ok d →
      (d.version = none ∨ d.version = some (n.store.revision + 1)) →
      ¬ stopped.counted.Fails around d →
      let next := stopped.dispatch around session (replayRequest envelope)
      next.1 = .ok ∧
      (∃ command, Command.ofRequest (Request.of d.command d.args) = .ok command ∧
        next.2.1.store = (stopped.counted.runOwn around (Session.replay d.db) command).node.store) ∧
      (d.command ∈ [Verb.save.name, Verb.saveLater.name, Verb.shutdown.name] ∨
        next.2.1.store.revision = n.store.revision + 1) := by
  intro served stopped
  obtain ⟨hreply, hserved⟩ := acknowledged_of_fails session hauthenticated hdecode hturn hfails
  have hstopped : n.store.Untouched stopped.store := by
    refine hserved.trans (untouched_serveAll_outOfTurn fun x hx => ?_)
    rw [hserved.revision]
    exact hrequests x hx
  refine ⟨hreply, hstopped, fun x hx => ?_, ?_⟩
  · rw [← hstopped.revision] at hx
    exact hx.refused.1
  · intro around session envelope d hauthenticated hdecode hturn hruns next
    rw [← hstopped.revision] at hturn
    obtain ⟨hreply, hstore⟩ :=
      dispatch_turn around hdecode hauthenticated (checkVersion_eq_ok.mpr hturn)
    obtain ⟨command, hread, hran, hnext⟩ := runs_of_not_fails hruns
    have hleft : next.2.1.store = (stopped.counted.replayChange around d).store := hstore
    refine ⟨hreply, ⟨command, hread, ?_⟩, ?_⟩
    · rw [hleft, hran]
    · rw [hleft, ← hstopped.revision]
      exact hnext

/-! ## A stream that stops -/

/-- A replica without keys. -/
def unwritten : Node :=
  new { Config.default with authority := false } (Directory.empty []) 0

/-- A change that should give an end to a key. -/
def ending : Change :=
  ⟨"0", "expire", [Bytes.ofText "missing", Bytes.ofText "10"], some 1⟩

/-- The change as octets. -/
def endingEnvelope : Bytes :=
  ending.encode.toOption.getD []

/-- A change that sets a key. -/
def writingKey (version : Nat) : Change :=
  ⟨"0", "set", [Bytes.ofText "k", Bytes.ofText "v"], some version⟩

/-- The change as octets. -/
def writingEnvelope (version : Nat) : Bytes :=
  (writingKey version).encode.toOption.getD []

/-- Where the key does not exist it gets no end. -/
lemma fails_ending : unwritten.counted.Fails .alone ending := by
  have hread : Command.ofRequest (Request.of ending.command ending.args) =
      .ok (.edit (.expire "missing" 10)) := rfl
  exact .refused hread rfl

/-- Setting a key never fails. -/
lemma not_fails_writingKey (n : Node) (around : Surroundings) (version : Nat) :
    ¬ n.Fails around (writingKey version) := by
  have hread : Command.ofRequest (Request.of "set" [Bytes.ofText "k", Bytes.ofText "v"]) =
      .ok (.edit (.set "k" (Bytes.ofText "v"))) := rfl
  intro h
  cases h with
  | idle hidle => exact hidle rfl
  | misread read => cases hread.symm.trans read
  | refused read reply =>
    obtain rfl := Except.ok.inj (hread.symm.trans read)
    cases reply
  | unmoved read result => cases hread.symm.trans read

lemma decode_ending : Change.decode endingEnvelope = .ok ending := by decide +kernel

lemma decode_writing : Change.decode (writingEnvelope 1) = .ok (writingKey 1) ∧
    Change.decode (writingEnvelope 2) = .ok (writingKey 2) := by
  decide +kernel

/-- The end of a key that does not exist, the change after it, and the same one as if it were the
first. -/
theorem failed_change_stops_ending :
    let served := unwritten.dispatch .alone (Session.new true) (replayRequest endingEnvelope)
    let second : Surroundings × Session × Request :=
      (.alone, Session.new true, replayRequest (writingEnvelope 2))
    let stopped := served.2.1.serveAll [second, second]
    let next := stopped.dispatch .alone (Session.new true) (replayRequest (writingEnvelope 1))
    served.1 = .ok ∧ stopped.store.revision = 0 ∧
      (stopped.dispatch second.1 second.2.1 second.2.2).1 = .error "version mismatch" ∧
      next.1 = .ok ∧ next.2.1.store.revision = 1 := by
  intro served second stopped next
  obtain ⟨hfirst, hsecond⟩ := decode_writing
  have hlater : OutOfTurn unwritten.store.revision second :=
    ⟨rfl, writingEnvelope 2, writingKey 2, 2, rfl, hsecond, rfl, by decide⟩
  obtain ⟨hreply, huntouched, hrefused, hnext⟩ := failed_change_stops unwritten .alone
    (Session.new true) endingEnvelope ending rfl decode_ending (.inr rfl) fails_ending
    [second, second] (by simp [hlater])
  have hturn : (writingKey 1).version = some (unwritten.store.revision + 1) := rfl
  obtain ⟨hok, -, hversion⟩ := hnext .alone (Session.new true) (writingEnvelope 1) (writingKey 1)
    rfl hfirst (.inr hturn) (not_fails_writingKey _ _ _)
  have hwrites :
      (writingKey 1).command ∉ [Verb.save.name, Verb.saveLater.name, Verb.shutdown.name] := by
    decide
  have hversion := hversion.resolve_left hwrites
  have hsame := huntouched.revision
  have hzero : unwritten.store.revision = 0 := rfl
  rw [hzero] at hsame hversion
  dsimp only [served, stopped, next]
  exact ⟨hreply, hsame, hrefused second hlater, hok, hversion⟩

/-- A change that fails is not passed over: the change after it in its stream is refused, although
it would not fail. -/
theorem not_failed_change_passed_over :
    ¬ ∀ (n : Node) (around : Surroundings) (session : Session) (envelope following : Bytes)
      (c d : Change), n.IsReplica → session.OfConnection → session.authenticated →
      Change.decode envelope = .ok c → c.version = some (n.store.revision + 1) →
      n.counted.Fails around c →
      Change.decode following = .ok d → d.version = some (n.store.revision + 2) →
      let left := (n.dispatch around session (replayRequest envelope)).2.1
      ¬ left.counted.Fails around d →
      (left.dispatch around session (replayRequest following)).1 = .ok := by
  intro hpassed
  obtain ⟨-, hsecond⟩ := decode_writing
  have hok := hpassed unwritten .alone (Session.new true) endingEnvelope (writingEnvelope 2) ending
    (writingKey 2) ⟨by decide, by decide⟩ (.opened true) rfl decode_ending rfl fails_ending hsecond
    rfl (not_fails_writingKey _ _ _)
  obtain ⟨-, huntouched⟩ :=
    acknowledged_of_fails (Session.new true) rfl decode_ending (.inr rfl) fails_ending
  have hlater : OutOfTurn unwritten.store.revision
      (.alone, Session.new true, replayRequest (writingEnvelope 2)) :=
    ⟨rfl, writingEnvelope 2, writingKey 2, 2, rfl, hsecond, rfl, by decide⟩
  rw [← huntouched.revision] at hlater
  cases hok.symm.trans hlater.refused.1

end Node

end ReplicatedStore
