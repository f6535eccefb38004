import ReplicatedStore.Node.Dispatch
import ReplicatedStore.Proofs.Command.Recorded
import ReplicatedStore.Proofs.Encoding.Layout

/-!
# What serving a request leaves

A request is refused before it runs, or its arguments are wrong, or it attaches a replica, or it
runs as the command that was read.  `Node.Answered` says so of the reply, the node and the session,
and `Node.Served` of the node alone.  The last two cases are those of a request that passed all
checks, and for each check it is said what that means.

What holds after every request is proved by going through the four cases: no request changes the
configuration of a node (`Node.config_dispatch`), or lets a connection run recorded changes
(`Session.OfConnection.not_replaying`).
-/

namespace ReplicatedStore

/-- Surroundings at the time zero, in which nobody answers. -/
def Surroundings.alone : Surroundings :=
  ⟨0, 0, 0, fun _ => false, fun _ => false⟩

/-- Does the type meet the demand? -/
def Demand.Met (found : ValueType) : Demand → Prop
  | .any => found ≠ .none
  | .stringOrNone => found = .string ∨ found = .none
  | .listOrNone => found = .list ∨ found = .none
  | .list => found = .list
  | .setOrNone => found = .set ∨ found = .none
  | .set => found = .set
  | .unconstrained => True

lemma Demand.check_eq_ok {demand : Demand} {found : ValueType} :
    demand.check found = .ok () ↔ demand.Met found := by
  cases demand <;> cases found <;> simp [check, Met]

lemma Verb.name_of_ofName? {name : String} {v : Verb} (h : ofName? name = some v) :
    v.name = name := by
  simpa using List.find?_some h

/-- The request for a verb by its name is one for that verb. -/
lemma Verb.ofName?_request (v : Verb) (args : List Bytes) :
    ofName? (Request.of v.name args).name = some v := by
  rw [Request.of, lowercase_name, ofName?_name]

/-- A command that a request names comes out of the reading of its verb. -/
lemma Command.run_of_ofRequest {r : Request} {v : Verb} {command : Command}
    (hverb : Verb.ofName? r.name = some v) (h : ofRequest r = .ok command) :
    ∃ rest, (readArguments v).run r.args = .ok (command, rest) := by
  rw [ofRequest, hverb] at h
  exact run_of_ofArguments h

/-- The commands that run from a change are those that write, and four others. -/
lemma Verb.isReplayable_iff {v : Verb} :
    v.isReplayable ↔
      v.descriptor.access = .write ∨ v = .save ∨ v = .saveLater ∨ v = .shutdown ∨ v = .select := by
  simp [isReplayable, or_assoc]

namespace Node

/-- A command runs from a change exactly if its name, in small letters, is that of such a verb. -/
lemma isReplayable_iff {command : String} :
    isReplayable command ↔ ∃ v : Verb, command = v.name ∧ v.isReplayable := by
  constructor
  · intro h
    unfold isReplayable at h
    cases hname : Verb.ofName? command with
    | none =>
      rw [hname] at h
      cases h
    | some v =>
      rw [hname] at h
      exact ⟨v, (Verb.name_of_ofName? hname).symm, h⟩
  · rintro ⟨v, rfl, hruns⟩
    unfold isReplayable
    rw [Verb.ofName?_name]
    exact hruns

@[simp] lemma store_withStore (n : Node) (s : Store) : (n.withStore s).store = s := rfl

@[simp] lemma store_saveIfDue (n : Node) : n.saveIfDue.store = n.store := by
  unfold saveIfDue
  split <;> rfl

/-! ## What passes the checks -/

section Checks

variable {n : Node} {session : Session} {r : Request}

/-- What passes the checks names a verb that the node knows, and passes each of them. -/
lemma verb_of_check (h : n.check session r = .ok ()) :
    ∃ v, Verb.ofName? r.name = some v ∧ checkArity v.descriptor r = .ok () ∧
      n.checkAccess session v.descriptor.access = .ok () ∧
      n.checkDemand session v.descriptor.demand r.args = .ok () := by
  unfold check at h
  split at h
  · cases h
  · cases hverb : Verb.ofName? r.name with
    | none =>
      rw [hverb] at h
      cases h
    | some v =>
      rw [hverb] at h
      obtain ⟨⟨⟩, harity, h⟩ := Layout.bind_eq_ok h
      obtain ⟨⟨⟩, haccess, hdemand⟩ := Layout.bind_eq_ok h
      exact ⟨v, rfl, harity, haccess, hdemand⟩

/-- The checks that a request for a known verb has passed. -/
lemma passes_of_check {v : Verb} (h : n.check session r = .ok ())
    (hverb : Verb.ofName? r.name = some v) :
    checkArity v.descriptor r = .ok () ∧ n.checkAccess session v.descriptor.access = .ok () ∧
      n.checkDemand session v.descriptor.demand r.args = .ok () := by
  obtain ⟨v', hverb', hpassed⟩ := verb_of_check h
  rw [hverb] at hverb'
  obtain rfl := Option.some.inj hverb'
  exact hpassed

/-- Only the secret can be shown before it is shown. -/
lemma authenticated_of_check (h : n.check session r = .ok ()) (hauth : r.name ≠ Verb.auth.name) :
    session.authenticated := by
  by_contra hnot
  have hrefused : (!session.authenticated && r.name != Verb.auth.name) = true := by
    rw [eq_false_of_ne_true hnot]
    simp [hauth]
  unfold check at h
  rw [if_pos hrefused] at h
  cases h

lemma checkArity_eq_ok {d : Descriptor} :
    checkArity d r = .ok () ↔ ∀ k, d.arity = some k → r.args.length = k := by
  unfold checkArity
  cases d.arity with
  | none => simp
  | some expected =>
    dsimp only
    split <;> simp_all

lemma checkAccess_write_eq_ok :
    n.checkAccess session .write = .ok () ↔
      n.config.authority ∧ ¬ n.halting ∧ ¬ session.closing := by
  unfold checkAccess
  rw [if_pos rfl]
  cases n.config.authority <;> cases n.halting <;> cases session.closing <;> simp

lemma checkDemand_eq_ok {demand : Demand} {args : List Bytes} :
    n.checkDemand session demand args = .ok () ↔
      ∀ key, args.head? = some key → demand.Met (n.store.typeOf session.db key.lossyText) := by
  unfold checkDemand
  cases args.head? with
  | none => simp
  | some key =>
    simp only [Option.some.injEq, forall_eq', ← Demand.check_eq_ok]
    cases demand.check (n.store.typeOf session.db key.lossyText) <;> simp [Except.mapError]

end Checks

/-! ## What serving a request gives -/

section Answers

variable (n : Node) (around : Surroundings) (session : Session) (r : Request)

/-- What serving a request gives: the reply, the node, and the session before the connection to a
node that is about to stop is closed. -/
inductive Answered : Reply → Node → Session → Prop where
  /-- It is refused before it runs. -/
  | refused {refusal : Refusal} (stopped : n.check session r = .error refusal) :
    Answered (.error refusal.message) n session
  /-- Its arguments are wrong. -/
  | misread {fault : CommandError} (passed : n.check session r = .ok ())
      (read : Command.ofRequest r = .error fault) :
    Answered (.error fault.message) (n.withStore n.store.recordOperation) session
  /-- It attaches a replica. -/
  | attached {replica : Address} (passed : n.check session r = .ok ())
      (read : Command.ofRequest r = .ok (.attach replica)) :
    Answered ((n.withStore n.store.recordOperation).serveAttach around session replica).1
      ((n.withStore n.store.recordOperation).serveAttach around session replica).2.1.saveIfDue
      ((n.withStore n.store.recordOperation).serveAttach around session replica).2.2
  /-- It runs as the command that was read. -/
  | ran {command : Command} (passed : n.check session r = .ok ())
      (read : Command.ofRequest r = .ok command) :
    Answered (replyOf ((n.withStore n.store.recordOperation).run around session command).answer)
      ((n.withStore n.store.recordOperation).run around session command).node.saveIfDue
      ((n.withStore n.store.recordOperation).run around session command).session

lemma node_serveAttach (replica : Address) :
    (n.serveAttach around session replica).2.1 = (n.attach around replica).2 := by
  unfold serveAttach
  split <;> rename_i hattach <;> rw [hattach]

lemma session_serveAttach (replica : Address) :
    (n.serveAttach around session replica).2.2 = session := by
  unfold serveAttach
  split <;> rfl

variable {n session r} in
lemma answered_execute (h : n.check session r = .ok ()) :
    n.Answered around session r (n.execute around session r).1
      (n.execute around session r).2.1 (n.execute around session r).2.2 := by
  unfold execute
  cases hread : Command.ofRequest r with
  | error fault => exact .misread h hread
  | ok command =>
    cases command with
    | attach replica => exact .attached h hread
    | _ => exact .ran h hread

/-- A request is answered in one of these ways, and on a node that is about to stop the connection
is closed then. -/
lemma answered_dispatch :
    ∃ after, n.Answered around session r (n.dispatch around session r).1
        (n.dispatch around session r).2.1 after ∧
      (n.dispatch around session r).2.2 =
        if (n.dispatch around session r).2.1.halting then { after with closing := true }
        else after := by
  unfold dispatch
  cases hcheck : n.check session r with
  | error refusal => exact ⟨session, .refused hcheck, rfl⟩
  | ok _ => exact ⟨_, answered_execute around hcheck, rfl⟩

end Answers

/-! ## What a request leaves of the node -/

/-- What serving a request leaves of the node. -/
inductive Served (n : Node) (around : Surroundings) (session : Session) (r : Request) :
    Node → Prop where
  /-- It is refused before it runs. -/
  | refused : Served n around session r n
  /-- Its arguments are wrong. -/
  | misread : Served n around session r (n.withStore n.store.recordOperation)
  /-- It attaches a replica. -/
  | attached {replica : Address} (passed : n.check session r = .ok ())
      (read : Command.ofRequest r = .ok (.attach replica)) :
    Served n around session r
      ((n.withStore n.store.recordOperation).attach around replica).2.saveIfDue
  /-- It runs as the command that was read. -/
  | ran {command : Command} (passed : n.check session r = .ok ())
      (read : Command.ofRequest r = .ok command) :
    Served n around session r
      ((n.withStore n.store.recordOperation).run around session command).node.saveIfDue

variable (n : Node) (around : Surroundings) (session : Session) (r : Request)

lemma served_dispatch : n.Served around session r (n.dispatch around session r).2.1 := by
  obtain ⟨after, hanswered, -⟩ := n.answered_dispatch around session r
  generalize (n.dispatch around session r).1 = reply, (n.dispatch around session r).2.1 = left
    at hanswered
  cases hanswered with
  | refused stopped => exact .refused
  | misread passed read => exact .misread
  | attached passed read =>
    rw [node_serveAttach]
    exact .attached passed read
  | ran passed read => exact .ran passed read

/-! ## Configurations -/

@[simp] lemma config_saveIfDue : n.saveIfDue.config = n.config := by
  unfold saveIfDue
  split <;> rfl

@[simp] lemma config_settleJournal : n.settleJournal.config = n.config := by
  unfold settleJournal
  split <;> rfl

lemma config_attach (replica : Address) : (n.attach around replica).2.config = n.config := by
  unfold attach
  split
  · rfl
  · dsimp only [startAttach]
    cases (n.store.setRecording true).dump around.now around.wall with
    | error fault => simp [withStore]
    | ok copy =>
      simp only [finishAttach, config_settleJournal]
      split <;> rfl

lemma config_save : (n.save around).2.config = n.config := by
  unfold save
  split
  · rfl
  · split <;> rfl

lemma config_runOwn (command : Command) :
    (n.runOwn around session command).node.config = n.config := by
  cases command with
  | decrement key amount =>
    simp only [runOwn]
    split <;> rfl
  | save =>
    have hsaved := n.config_save around
    simp only [runOwn, saveNow]
    split
    · rename_i heq
      rwa [heq] at hsaved
    · rename_i heq
      rwa [heq] at hsaved
  | replaceAll version data =>
    simp only [runOwn, replaceAll]
    split <;> rfl
  | _ => rfl

lemma config_replayChange (c : Change) : (n.replayChange around c).config = n.config := by
  unfold replayChange
  split
  · split
    · exact n.config_runOwn around _ _
    · rfl
  · rfl

lemma config_run (command : Command) :
    (n.run around session command).node.config = n.config := by
  cases command with
  | replay envelope =>
    simp only [run, replay]
    split
    · rfl
    · split
      · rfl
      · exact n.config_replayChange around _
  | _ => exact n.config_runOwn around session _

/-- No request changes the configuration. -/
lemma config_dispatch : (n.dispatch around session r).2.1.config = n.config := by
  have hserved := n.served_dispatch around session r
  generalize (n.dispatch around session r).2.1 = after at hserved
  cases hserved with
  | refused => rfl
  | misread => rfl
  | attached passed read =>
    rw [config_saveIfDue, config_attach]
    rfl
  | ran passed read =>
    rw [config_saveIfDue, config_run]
    rfl

/-! ## Sessions -/

/-- The session after a command.  Four commands change it. -/
lemma session_run (command : Command) :
    (n.run around session command).session =
      match command with
      | .select db => { session with db }
      | .auth password => { session with authenticated := n.config.accepts password }
      | .shutdown | .quit => { session with closing := true }
      | _ => session := by
  cases command with
  | decrement key amount =>
    simp only [run, runOwn]
    split <;> rfl
  | save =>
    simp only [run, runOwn, saveNow]
    split <;> rfl
  | replaceAll version data =>
    simp only [run, runOwn, replaceAll]
    split <;> rfl
  | replay envelope =>
    simp only [run, replay]
    split
    · rfl
    · split <;> rfl
  | _ => rfl

/-- A request leaves the session what it is. -/
lemma replaying_dispatch :
    (n.dispatch around session r).2.2.replaying = session.replaying := by
  obtain ⟨after, hanswered, hsession⟩ := n.answered_dispatch around session r
  have hafter : after.replaying = session.replaying := by
    clear hsession
    generalize (n.dispatch around session r).1 = reply, (n.dispatch around session r).2.1 = left
      at hanswered
    cases hanswered with
    | refused stopped => rfl
    | misread passed read => rfl
    | attached passed read => rw [session_serveAttach]
    | ran passed read =>
      rw [session_run]
      split <;> rfl
  rw [hsession]
  split <;> exact hafter

end Node

/-- The sessions that connections have: each is new once, and then what a request left of it. -/
inductive Session.OfConnection : Session → Prop where
  | opened (authenticated : Bool) : OfConnection (Session.new authenticated)
  | served {session : Session} (h : OfConnection session) (n : Node) (around : Surroundings)
      (r : Request) : OfConnection (n.dispatch around session r).2.2

/-- No connection runs recorded changes. -/
lemma Session.OfConnection.not_replaying {session : Session} (h : session.OfConnection) :
    ¬ session.replaying := by
  induction h with
  | opened authenticated => simp [Session.new]
  | served h n around r ih => rwa [Node.replaying_dispatch]

end ReplicatedStore
