import ReplicatedStore.Proofs.Node.Served

/-!
# Who may write

A request reaches the data of a node through one gate: it must name a command that writes, on the
authority, while neither the node is about to stop nor the connection about to close, from a client
that has shown the secret, with the right number of arguments and a first argument of the right type
(`Node.Admits`).  Every other request leaves the store untouched, but for three commands: going to
another database, running a recorded change, and replacing the whole store (`Node.write_gate`).

Going to another database changes no data anywhere, and on a replica nothing but that the database
exists.  So without the other two no requests change what a replica holds.

The gate and the commands are written down apart: a table says which command writes, and the reading
of the arguments says what is done.  That the two agree is proved by going through all commands
(`Command.yields_passive`).
-/

open Std (ExtTreeMap)

namespace ReplicatedStore

/-! ## What is left untouched -/

namespace Store

/-- The recorded changes that carry a version. -/
def versioned (s : Store) : List Change :=
  s.journal.pending.filter fun c => c.version.isSome

/-- From `s` to `t` no data changed and no change was counted or recorded. -/
structure Untouched (s t : Store) : Prop where
  contents : s.SameContents t
  revision : t.revision = s.revision
  changeOperations : t.changeOperations = s.changeOperations
  versioned : t.versioned = s.versioned
  authority : t.authority = s.authority

lemma Untouched.refl (s : Store) : s.Untouched s :=
  ⟨.refl s, rfl, rfl, rfl, rfl⟩

lemma Untouched.trans {s t u : Store} (h : s.Untouched t) (g : t.Untouched u) : s.Untouched u :=
  ⟨h.contents.trans g.contents, g.revision.trans h.revision,
    g.changeOperations.trans h.changeOperations, g.versioned.trans h.versioned,
    g.authority.trans h.authority⟩

lemma untouched_recordOperation (s : Store) : s.Untouched s.recordOperation :=
  ⟨.refl s, rfl, rfl, rfl, rfl⟩

lemma untouched_setRecording (s : Store) (recording : Bool) :
    s.Untouched (s.setRecording recording) :=
  ⟨.refl s, rfl, rfl, rfl, rfl⟩

lemma untouched_markSaved (s : Store) (wall mark : Nat) : s.Untouched (s.markSaved wall mark) :=
  ⟨.refl s, rfl, rfl, rfl, rfl⟩

lemma untouched_ensure (s : Store) (db : String) : s.Untouched (s.ensure db) :=
  ⟨fun d k => ⟨s.value?_ensure db d k, rfl⟩, rfl, rfl, rfl, rfl⟩

/-- A change without a version may be recorded. -/
lemma untouched_journalUnversioned (s : Store) (db command : String) :
    s.Untouched (s.journalUnversioned db command) := by
  unfold journalUnversioned
  constructor
  · intro d k
    have hdatabases := s.databases_record ⟨db, command, [], none⟩
    have hagenda := s.agenda_record ⟨db, command, [], none⟩
    rw [value?, deadline?, hdatabases, hagenda]
    exact ⟨rfl, rfl⟩
  · exact s.revision_record _
  · exact s.changeOperations_record _
  · have hpending := s.pending_record ⟨db, command, [], none⟩
    rw [versioned, hpending, List.filter_append]
    split <;> simp [versioned]
  · exact s.authority_record _

end Store

/-! ## Commands that change nothing -/

namespace Command

/-- Does the command leave the data alone wherever it runs? -/
def IsPassive : Command → Prop
  | .edit _ | .decrement _ _ | .select _ | .replay _ | .replaceAll _ _ => False
  | _ => True

lemma yields_readSort : Yields readSort IsPassive :=
  .after _ fun _ => .after _ fun _ => .after _ fun _ => .pure trivial

lemma yields_readCombine (op : Store.SetAlgebra) : Yields (readCombine op) IsPassive :=
  .after _ fun _ => .pure trivial

/-- **The table of rights is right**: what is read for a command that does not write is passive,
the three commands apart that the module names. -/
lemma yields_passive {v : Verb} (hread : v.descriptor.access ≠ .write) (hselect : v ≠ .select)
    (hreplay : v ≠ .replay) (hreplace : v ≠ .replaceAll) :
    Yields (readArguments v) IsPassive := by
  cases v
  case sort => exact yields_readSort
  case intersect => exact yields_readCombine _
  case unite => exact yields_readCombine _
  case subtract => exact yields_readCombine _
  case attach => exact yields_readAttach (fun _ => trivial) _
  case attachSubordinate => exact yields_readAttach (fun _ => trivial) _
  case listRange =>
    exact .after _ fun _ => .after _ fun _ => .after _ fun _ => .pure trivial
  case itemAt => exact .after _ fun _ => .after _ fun _ => .pure trivial
  case isMember => exact .after _ fun _ => .after _ fun _ => .pure trivial
  case select => exact absurd rfl hselect
  case replay => exact absurd rfl hreplay
  case replaceAll => exact absurd rfl hreplace
  -- What is left writes, or takes one argument or none.
  all_goals
    first
      | exact absurd rfl hread
      | exact .pure trivial
      | exact .after _ fun _ => .pure trivial

lemma yields_select : Yields (readArguments .select) fun command => ∃ db, command = .select db :=
  .after _ fun db => .pure ⟨db, rfl⟩

end Command

namespace Node

/-! ## Passive commands -/

variable (n : Node) (around : Surroundings) (session : Session)

lemma untouched_settleJournal : n.store.Untouched n.settleJournal.store := by
  unfold settleJournal
  split
  · exact n.store.untouched_setRecording false
  · exact .refl _

lemma untouched_finishAttach (replica : Address) (version : Nat) (taken : Bool) :
    n.store.Untouched (n.finishAttach replica version taken).store := by
  unfold finishAttach
  split
  · exact untouched_settleJournal { n with links := n.links ++ [⟨replica, version⟩] }
  · exact n.untouched_settleJournal

/-- Attaching a replica turns recording on, and perhaps off again. -/
lemma untouched_attach (replica : Address) :
    n.store.Untouched (n.attach around replica).2.store := by
  let started := { n with
    links := n.links.filter fun l => l.replica ≠ replica }.withStore (n.store.setRecording true)
  have hstarted : n.store.Untouched started.store := n.store.untouched_setRecording true
  unfold attach
  split
  · exact .refl _
  · dsimp only [startAttach]
    cases (n.store.setRecording true).dump around.now around.wall with
    | error fault => exact hstarted.trans started.untouched_settleJournal
    | ok copy =>
      exact hstarted.trans
        (started.untouched_finishAttach replica copy.1 (around.takesCopy replica))

/-- Saving notes what was saved, but counts no change. -/
lemma untouched_save : n.store.Untouched (n.save around).2.store := by
  unfold save
  split
  · exact .refl _
  · split
    · exact .refl _
    · exact n.store.untouched_markSaved around.wall n.store.changeOperations

/-- A passive command leaves the store untouched, wherever it runs. -/
lemma untouched_run {command : Command} (h : command.IsPassive) :
    n.store.Untouched (n.run around session command).node.store := by
  cases command with
  | save =>
    show n.store.Untouched (n.saveNow around session).node.store
    have hsaved := n.untouched_save around
    unfold saveNow
    split
    · rename_i heq
      rw [heq] at hsaved
      exact hsaved
    · rename_i heq
      rw [heq] at hsaved
      exact hsaved.trans (Store.untouched_journalUnversioned _ _ _)
  | saveLater => exact n.store.untouched_journalUnversioned session.db _
  | shutdown => exact n.store.untouched_journalUnversioned session.db _
  | edit op => exact h.elim
  | decrement key amount => exact h.elim
  | select db => exact h.elim
  | replay envelope => exact h.elim
  | replaceAll version data => exact h.elim
  | _ => exact .refl _

/-- Every command but another change runs from a change as it does on a connection. -/
lemma run_eq_runOwn {command : Command} (h : ∀ envelope, command ≠ .replay envelope) :
    n.run around session command = n.runOwn around session command := by
  cases command with
  | replay envelope => exact absurd rfl (h envelope)
  | _ => rfl

/-- It does so also when it runs from a change. -/
lemma untouched_runOwn {command : Command} (h : command.IsPassive) :
    n.store.Untouched (n.runOwn around session command).node.store := by
  have hown : n.run around session command = n.runOwn around session command := by
    apply run_eq_runOwn
    rintro envelope rfl
    exact h
  rw [← hown]
  exact n.untouched_run around session h

/-! ## The gate -/

/-- Does the gate for writing let the request pass, which names the command `v`? -/
structure Admits (r : Request) (v : Verb) : Prop where
  /-- The name is that of a command that writes. -/
  named : Verb.ofName? r.name = some v
  writes : v.descriptor.access = .write
  /-- The node is the authority, and stays. -/
  authority : n.config.authority
  staying : ¬ n.halting
  /-- The client has shown the secret, and its connection stays open. -/
  authenticated : session.authenticated
  remaining : ¬ session.closing
  /-- The arguments are as many as the command takes. -/
  arity : ∀ k, v.descriptor.arity = some k → r.args.length = k
  /-- What the first of them names is of the type that the command works on. -/
  demand : ∀ key, r.args.head? = some key →
    v.descriptor.demand.Met (n.store.typeOf session.db key.lossyText)

variable {n around session} {r : Request}

/-- A command that writes passes the checks through the gate only. -/
lemma admits_of_check {v : Verb} (h : n.check session r = .ok ())
    (hverb : Verb.ofName? r.name = some v) (hwrites : v.descriptor.access = .write) :
    n.Admits session r v := by
  obtain ⟨harity, haccess, hdemand⟩ := passes_of_check h hverb
  rw [hwrites] at haccess
  obtain ⟨hauthority, hstaying, hremaining⟩ := checkAccess_write_eq_ok.mp haccess
  have hauth : r.name ≠ Verb.auth.name := by
    intro hname
    rw [hname, Verb.ofName?_name] at hverb
    obtain rfl := Option.some.inj hverb
    cases hwrites
  exact ⟨hverb, hwrites, hauthority, hstaying, authenticated_of_check h hauth, hremaining,
    checkArity_eq_ok.mp harity, checkDemand_eq_ok.mp hdemand⟩

/-- Whatever the gate lets pass, passes the checks. -/
lemma Admits.check {v : Verb} (h : n.Admits session r v) : n.check session r = .ok () := by
  have hknown : ¬ (!session.authenticated && r.name != Verb.auth.name) = true := by
    simp [h.authenticated]
  have haccess : n.checkAccess session v.descriptor.access = .ok () := by
    rw [h.writes]
    exact checkAccess_write_eq_ok.mpr ⟨h.authority, h.staying, h.remaining⟩
  rw [Node.check, if_neg hknown, h.named]
  dsimp only
  rw [checkArity_eq_ok.mpr h.arity, haccess, checkDemand_eq_ok.mpr h.demand]
  rfl

/-- A request leaves the store untouched, or runs a command that was read from its arguments, and is
answered as that command is. -/
lemma untouched_or_ran (n : Node) (around : Surroundings) (session : Session) (r : Request) :
    n.store.Untouched (n.dispatch around session r).2.1.store ∨
      ∃ v command rest, n.check session r = .ok () ∧ Verb.ofName? r.name = some v ∧
        (Command.readArguments v).run r.args = .ok (command, rest) ∧
        let ran := (n.withStore n.store.recordOperation).run around session command
        (n.dispatch around session r).1 = replyOf ran.answer ∧
          (n.dispatch around session r).2.1.store = ran.node.store := by
  have hcounted := n.store.untouched_recordOperation
  obtain ⟨after, hanswered, -⟩ := n.answered_dispatch around session r
  generalize (n.dispatch around session r).1 = reply, (n.dispatch around session r).2.1 = left
    at hanswered
  cases hanswered with
  | refused stopped => exact .inl (.refl _)
  | misread passed read => exact .inl hcounted
  | attached passed read =>
    rename_i replica
    have hattached := (n.withStore n.store.recordOperation).untouched_attach around replica
    rw [node_serveAttach, store_saveIfDue]
    exact .inl (hcounted.trans hattached)
  | ran passed read =>
    rename_i command
    obtain ⟨v, named, -⟩ := verb_of_check passed
    obtain ⟨rest, hrun⟩ := Command.run_of_ofRequest named read
    exact .inr ⟨v, command, rest, passed, named, hrun, rfl, store_saveIfDue _⟩

/-- What a request may do to the store, by the command that it names. -/
lemma untouched_or_named (n : Node) (around : Surroundings) (session : Session) (r : Request) :
    n.store.Untouched (n.dispatch around session r).2.1.store ∨ (∃ v, n.Admits session r v) ∨
      (session.authenticated ∧ (r.name = Verb.select.name ∨ r.name = Verb.replay.name ∨
        r.name = Verb.replaceAll.name)) := by
  rcases n.untouched_or_ran around session r with
    huntouched | ⟨v, command, rest, passed, named, hrun, -, hleft⟩
  · exact .inl huntouched
  · -- What writes has come through the gate; of what does not, all but three commands are passive.
    by_cases hwrites : v.descriptor.access = .write
    · exact .inr (.inl ⟨v, admits_of_check passed named hwrites⟩)
    by_cases hapart : v = .select ∨ v = .replay ∨ v = .replaceAll
    · have hname : r.name = Verb.select.name ∨ r.name = Verb.replay.name ∨
          r.name = Verb.replaceAll.name := by
        rw [← Verb.name_of_ofName? named]
        rcases hapart with rfl | rfl | rfl <;> simp
      have hauth : r.name ≠ Verb.auth.name := by
        rcases hname with hname | hname | hname <;> rw [hname] <;> decide
      exact .inr (.inr ⟨authenticated_of_check passed hauth, hname⟩)
    · obtain ⟨hselect, hrest⟩ := not_or.mp hapart
      obtain ⟨hreplay, hreplace⟩ := not_or.mp hrest
      have hpassive := Command.yields_passive hwrites hselect hreplay hreplace _ _ _ hrun
      have hran := (n.withStore n.store.recordOperation).untouched_run around session hpassive
      rw [hleft]
      exact .inl (n.store.untouched_recordOperation.trans hran)

/-! ## Going to another database -/

/-- A request to go to another database does so, or nothing. -/
lemma dispatch_select (n : Node) (around : Surroundings) (session : Session) {r : Request}
    (hname : r.name = Verb.select.name) :
    (n.dispatch around session r).2.1.store = n.store ∨
      (n.dispatch around session r).2.1.store = n.store.recordOperation ∨
      ∃ db, (n.dispatch around session r).2.1.store =
        if n.store.authority || session.replaying then n.store.recordOperation.select db
        else n.store.recordOperation.ensure db := by
  have hselect : ∀ {command : Command}, Command.ofRequest r = .ok command →
      ∃ db, command = .select db := by
    intro command hread
    have hverb : Verb.ofName? r.name = some .select := by rw [hname, Verb.ofName?_name]
    obtain ⟨rest, hrun⟩ := Command.run_of_ofRequest hverb hread
    exact Command.yields_select _ _ _ hrun
  have hserved := n.served_dispatch around session r
  generalize (n.dispatch around session r).2.1 = after at hserved
  cases hserved with
  | refused => exact .inl rfl
  | misread => exact .inr (.inl rfl)
  | attached passed read =>
    obtain ⟨db, hcommand⟩ := hselect read
    cases hcommand
  | ran passed read =>
    obtain ⟨db, rfl⟩ := hselect read
    rw [store_saveIfDue]
    exact .inr (.inr ⟨db, rfl⟩)

/-- It changes no data. -/
lemma dispatch_select_contents (n : Node) (around : Surroundings) (session : Session) {r : Request}
    (hname : r.name = Verb.select.name) :
    n.store.SameContents (n.dispatch around session r).2.1.store := by
  rcases n.dispatch_select around session hname with hsame | hsame | ⟨db, hsame⟩
  · rw [hsame]
    exact .refl _
  · rw [hsame]
    exact n.store.untouched_recordOperation.contents
  · rw [hsame]
    have hensured := n.store.recordOperation.untouched_ensure db
    split
    · exact hensured.contents.trans (Store.sameContents_commit _ db _ _)
    · exact hensured.contents

end Node

/-! ## Replicas -/

namespace Node

/-- Is the node a replica?  Its store is told so by the configuration when the node is new. -/
structure IsReplica (n : Node) : Prop where
  config : ¬ n.config.authority
  store : ¬ n.store.authority

variable {n : Node} (around : Surroundings) {session : Session} {r : Request}

/-- On a replica a client that goes to another database makes it exist, and does nothing else. -/
lemma IsReplica.dispatch_select (h : n.IsReplica) (hsession : session.OfConnection)
    (hname : r.name = Verb.select.name) :
    n.store.Untouched (n.dispatch around session r).2.1.store ∧
      ((n.dispatch around session r).2.1.store.databases = n.store.databases ∨
        ∃ db, (n.dispatch around session r).2.1.store.databases =
          n.store.databases.insertIfNew db ∅) := by
  have hcounted := n.store.untouched_recordOperation
  have hensures : ¬ (n.store.authority || session.replaying) := by
    simp [h.store, hsession.not_replaying]
  rcases n.dispatch_select around session hname with hsame | hsame | ⟨db, hsame⟩
  · rw [hsame]
    exact ⟨.refl _, .inl rfl⟩
  · rw [hsame]
    exact ⟨hcounted, .inl rfl⟩
  · rw [hsame, if_neg hensures]
    exact ⟨hcounted.trans (n.store.recordOperation.untouched_ensure db), .inr ⟨db, rfl⟩⟩

/-- Nothing that a client can ask of a replica touches its store, but for the two commands that
replication uses. -/
lemma IsReplica.dispatch (h : n.IsReplica) (hsession : session.OfConnection)
    (hreplay : r.name ≠ Verb.replay.name) (hreplace : r.name ≠ Verb.replaceAll.name) :
    n.store.Untouched (n.dispatch around session r).2.1.store ∧
      (n.dispatch around session r).2.1.IsReplica := by
  have huntouched : n.store.Untouched (n.dispatch around session r).2.1.store := by
    rcases untouched_or_named n around session r with huntouched | ⟨v, hadmits⟩ | ⟨-, hname⟩
    · exact huntouched
    · exact absurd hadmits.authority h.config
    · rcases hname with hselect | hname | hname
      · exact (h.dispatch_select around hsession hselect).1
      · exact absurd hname hreplay
      · exact absurd hname hreplace
  refine ⟨huntouched, ?_, ?_⟩
  · rw [config_dispatch]
    exact h.config
  · rw [huntouched.authority]
    exact h.store

/-- The node after requests, each with the session that it is made in. -/
def serveAll (n : Node) (requests : List (Surroundings × Session × Request)) : Node :=
  requests.foldl (fun n x => (n.dispatch x.1 x.2.1 x.2.2).2.1) n

/-- However many requests there are, on however many connections. -/
lemma IsReplica.serveAll {n : Node} (h : n.IsReplica)
    {requests : List (Surroundings × Session × Request)}
    (hrequests : ∀ x ∈ requests, x.2.1.OfConnection ∧ x.2.2.name ≠ Verb.replay.name ∧
      x.2.2.name ≠ Verb.replaceAll.name) : n.store.Untouched (n.serveAll requests).store := by
  induction requests generalizing n with
  | nil => exact .refl _
  | cons x rest ih =>
    obtain ⟨hsession, hreplay, hreplace⟩ := hrequests x List.mem_cons_self
    -- The node is still a replica, so the rest of the requests finds one.
    obtain ⟨huntouched, hnext⟩ := h.dispatch x.1 hsession hreplay hreplace
    exact huntouched.trans (ih hnext fun y hy => hrequests y (List.mem_cons_of_mem _ hy))

/-- **The gate for writing.**  On every node:

* a request leaves the store untouched, unless the gate lets it pass or it names one of the three
  commands that are treated apart, from a client that has shown the secret;
* going to another database changes no data, and on a replica it leaves the store untouched but for
  a database without keys;
* no requests touch the store of a replica, if none of them runs a recorded change or replaces the
  whole store. -/
theorem write_gate :
    (∀ (n : Node) (around : Surroundings) (session : Session) (r : Request),
      n.store.Untouched (n.dispatch around session r).2.1.store ∨
      (∃ v, n.Admits session r v) ∨
      (session.authenticated ∧ (r.name = Verb.select.name ∨ r.name = Verb.replay.name ∨
        r.name = Verb.replaceAll.name))) ∧
    (∀ (n : Node) (around : Surroundings) (session : Session) (r : Request),
      r.name = Verb.select.name →
      n.store.SameContents (n.dispatch around session r).2.1.store ∧
      (n.IsReplica → session.OfConnection →
        n.store.Untouched (n.dispatch around session r).2.1.store ∧
        ((n.dispatch around session r).2.1.store.databases = n.store.databases ∨
          ∃ db, (n.dispatch around session r).2.1.store.databases =
            n.store.databases.insertIfNew db ∅))) ∧
    (∀ n : Node, n.IsReplica → ∀ requests : List (Surroundings × Session × Request),
      (∀ x ∈ requests, x.2.1.OfConnection ∧ x.2.2.name ≠ Verb.replay.name ∧
        x.2.2.name ≠ Verb.replaceAll.name) →
      n.store.Untouched (n.serveAll requests).store) := by
  refine ⟨untouched_or_named, ?_, ?_⟩
  · intro n around session r hname
    exact ⟨n.dispatch_select_contents around session hname,
      fun hreplica hsession => hreplica.dispatch_select around hsession hname⟩
  · intro n hreplica requests hrequests
    exact hreplica.serveAll hrequests

/-- A node that holds the key "a", as a replica or as the authority. -/
def holding (authority : Bool) : Node :=
  (new { Config.default with authority } (Directory.empty []) 0).withStore
    ((new { Config.default with authority } (Directory.empty []) 0).store.set "0" "a" [])

/-- Requests that would write, and one that goes to another database. -/
def writing : List (Surroundings × Session × Request) :=
  [⟨"flushall", []⟩, ⟨"select", [Bytes.ofText "7"]⟩, ⟨"del", [Bytes.ofText "a"]⟩].map fun r =>
    (.alone, Session.new true, r)

/-- They leave a replica as it is; the authority carries the first of them out, so that it must have
passed the gate. -/
theorem write_gate_writing :
    (holding false).store.Untouched ((holding false).serveAll writing).store ∧
      ∃ v, (holding true).Admits (Session.new true) ⟨"flushall", []⟩ v := by
  obtain ⟨hgate, -, hreplica⟩ := write_gate
  constructor
  · refine hreplica (holding false) ⟨by decide, by decide⟩ writing fun x hx => ?_
    have hnames : ∀ x ∈ writing, x.2.1 = Session.new true ∧ x.2.2.name ≠ Verb.replay.name ∧
        x.2.2.name ≠ Verb.replaceAll.name := by decide
    obtain ⟨hsession, hothers⟩ := hnames x hx
    rw [hsession]
    exact ⟨.opened true, hothers⟩
  · rcases hgate (holding true) .alone (Session.new true) ⟨"flushall", []⟩ with
      huntouched | hadmits | ⟨-, hname⟩
    · exact absurd huntouched.revision (by decide +kernel)
    · exact hadmits
    · exact absurd hname (by decide)

end Node

end ReplicatedStore
