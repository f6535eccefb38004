import Mathlib.Data.List.Induction
import Mathlib.Logic.Function.Basic
import ReplicatedStore.Proofs.Command.Asked
import ReplicatedStore.Proofs.Node.Served

/-!
# Clients that have not shown the secret

A node with a secret tells a client that has not shown it nothing: each reply is told from the
request and the secret alone (`Request.outsideReply`), whatever the node holds and whatever happens
on other connections.  Nor can such a client change anything but the flags of its own session.  The
one that counts, whether it has shown the secret, says how its last attempt went
(`Service.outsiders_learn_and_change_nothing`).

The reason is the order of the checks: whether the secret was shown is looked at before anything
that depends on the commands there are or on what the store holds.

A `Service` is a node with the sessions of its connections.  A run of it is any sequence of requests
on any connections, between which anything else may happen to the node.
-/

namespace ReplicatedStore

namespace Request

/-- The password that the request shows, if it is AUTH with one argument that is a text. -/
def password? (r : Request) : Option String :=
  if r.name = Verb.auth.name then
    match r.args with
    | [arg] => arg.text?
    | _ => none
  else none

/-- What AUTH with one argument is answered, by the text that the argument is. -/
def attemptReply (secret : String) : Option String → Reply
  | some password =>
    if password = secret then .ok else .error "authentication password incorrect"
  | none => .error CommandError.notText.message

/-- What a client that has not shown the secret is answered. -/
def outsideReply (secret : String) (r : Request) : Reply :=
  if r.name = Verb.auth.name then
    match r.args with
    | [arg] => attemptReply secret arg.text?
    | args => .error (CommandError.wrongArity r.name 1 args.length).message
  else .error Refusal.notAuthenticated.message

variable {r : Request} {arg : Bytes}

lemma password?_auth (hname : r.name = Verb.auth.name) (hargs : r.args = [arg]) :
    r.password? = arg.text? := by
  rw [password?, if_pos hname, hargs]

lemma outsideReply_auth (secret : String) (hname : r.name = Verb.auth.name)
    (hargs : r.args = [arg]) : r.outsideReply secret = attemptReply secret arg.text? := by
  rw [outsideReply, if_pos hname, hargs]

end Request

namespace Command

variable {r : Request} {arg : Bytes}

/-- AUTH reads its argument, which must be a text. -/
lemma ofRequest_auth (hname : r.name = Verb.auth.name) (hargs : r.args = [arg]) :
    ofRequest r = (textOf arg).map .auth := by
  rw [ofRequest, hname, Verb.ofName?_name, hargs]
  show (readArguments .auth).run' [arg] = _
  cases h : textOf arg <;> simp [readArguments, nextText, nextData, h] <;> rfl

lemma ofRequest_auth_ok {command : Command} (hname : r.name = Verb.auth.name)
    (hargs : r.args = [arg]) (h : ofRequest r = .ok command) :
    ∃ password, arg.text? = some password ∧ command = .auth password := by
  rw [ofRequest_auth hname hargs, textOf] at h
  cases htext : arg.text? with
  | none =>
    rw [htext] at h
    cases h
  | some password =>
    rw [htext] at h
    exact ⟨password, rfl, (Except.ok.inj h).symm⟩

lemma ofRequest_auth_error {fault : CommandError} (hname : r.name = Verb.auth.name)
    (hargs : r.args = [arg]) (h : ofRequest r = .error fault) :
    arg.text? = none ∧ fault = .notText := by
  rw [ofRequest_auth hname hargs, textOf] at h
  cases htext : arg.text? with
  | none =>
    rw [htext] at h
    exact ⟨rfl, (Except.error.inj h).symm⟩
  | some password =>
    rw [htext] at h
    cases h

end Command

namespace Node

variable {n : Node} {around : Surroundings} {session : Session} {r : Request}

/-! ## What an outsider gets -/

/-- All that AUTH has to pass is that it has one argument. -/
lemma check_auth (n : Node) (session : Session) (hname : r.name = Verb.auth.name) :
    n.check session r = checkArity Verb.auth.descriptor r := by
  have hopen : (!session.authenticated && r.name != Verb.auth.name) = false := by simp [hname]
  have hdemand : n.checkDemand session .unconstrained r.args = .ok () :=
    checkDemand_eq_ok.mpr fun _ _ => trivial
  unfold check
  rw [hopen, hname, Verb.ofName?_name]
  show (do checkArity Verb.auth.descriptor r; _) = _
  cases checkArity Verb.auth.descriptor r with
  | error refusal => rfl
  | ok _ => exact hdemand

/-- What an outsider runs is AUTH with one argument. -/
lemma auth_of_check (hsession : ¬ session.authenticated) (h : n.check session r = .ok ()) :
    r.name = Verb.auth.name ∧ ∃ arg, r.args = [arg] := by
  have hname : r.name = Verb.auth.name := by
    by_contra hother
    exact hsession (authenticated_of_check h hother)
  rw [check_auth n session hname] at h
  exact ⟨hname, List.length_eq_one_iff.mp (checkArity_eq_ok.mp h 1 rfl)⟩

lemma arity_auth : checkArity Verb.auth.descriptor r =
    if r.args.length = 1 then .ok ()
    else .error (.command (.wrongArity r.name 1 r.args.length)) := rfl

/-- What an outsider is told when the checks stop it. -/
lemma outsideReply_of_check_error {secret : String} {refusal : Refusal}
    (hsession : ¬ session.authenticated) (h : n.check session r = .error refusal) :
    .error refusal.message = r.outsideReply secret := by
  by_cases hname : r.name = Verb.auth.name
  · rw [check_auth n session hname, arity_auth] at h
    unfold Request.outsideReply
    rw [if_pos hname]
    split at h
    · cases h
    · rename_i hlength
      cases h
      split
      · rename_i arg hargs
        rw [hargs] at hlength
        exact absurd rfl hlength
      · rfl
  · have hrefused : (!session.authenticated && r.name != Verb.auth.name) = true := by
      simp [hsession, hname]
    unfold check at h
    rw [if_pos hrefused] at h
    cases h
    rw [Request.outsideReply, if_neg hname]

/-- From `n` to `left` no data changed, and no change was counted or recorded. -/
structure Unmoved (n left : Node) : Prop where
  databases : left.store.databases = n.store.databases
  agenda : left.store.agenda = n.store.agenda
  revision : left.store.revision = n.store.revision
  changeOperations : left.store.changeOperations = n.store.changeOperations
  journal : left.store.journal = n.store.journal

lemma unmoved_of_recordOperation {left : Node} (h : left.store = n.store.recordOperation) :
    n.Unmoved left := by
  constructor <;> rw [h] <;> rfl

lemma accepts_iff {secret : String} (hsecret : n.config.secret = some secret)
    (password : String) : n.config.accepts password ↔ password = secret := by
  rw [Config.accepts, hsecret]
  show (secret == password) = true ↔ _
  rw [beq_iff_eq, eq_comm]

lemma replyOf_authenticate (session : Session) {secret : String}
    (hsecret : n.config.secret = some secret) (password : String) :
    replyOf (n.authenticate session password).answer =
      Request.attemptReply secret (some password) := by
  simp only [authenticate, replyOf, Request.attemptReply, accepts_iff hsecret]

/-- **An outsider is told what the request and the secret tell**, and moves nothing. -/
lemma Answered.outside {secret : String} {reply : Reply} {left : Node} {after : Session}
    (h : n.Answered around session r reply left after) (hsession : ¬ session.authenticated)
    (hsecret : n.config.secret = some secret) :
    reply = r.outsideReply secret ∧ n.Unmoved left ∧ after.db = session.db ∧
      after.replaying = session.replaying := by
  cases h with
  | refused stopped =>
    exact ⟨outsideReply_of_check_error hsession stopped, ⟨rfl, rfl, rfl, rfl, rfl⟩, rfl, rfl⟩
  | misread passed read =>
    obtain ⟨hname, arg, hargs⟩ := auth_of_check hsession passed
    obtain ⟨htext, rfl⟩ := Command.ofRequest_auth_error hname hargs read
    rw [Request.outsideReply_auth secret hname hargs, htext]
    exact ⟨rfl, unmoved_of_recordOperation rfl, rfl, rfl⟩
  | attached passed read =>
    obtain ⟨hname, arg, hargs⟩ := auth_of_check hsession passed
    obtain ⟨password, -, hcommand⟩ := Command.ofRequest_auth_ok hname hargs read
    cases hcommand
  | ran passed read =>
    obtain ⟨hname, arg, hargs⟩ := auth_of_check hsession passed
    obtain ⟨password, htext, rfl⟩ := Command.ofRequest_auth_ok hname hargs read
    rw [Request.outsideReply_auth secret hname hargs, htext]
    refine ⟨?_, unmoved_of_recordOperation (store_saveIfDue _), rfl, rfl⟩
    exact replyOf_authenticate session hsecret password

/-! ## Who has shown the secret -/

/-- A request that shows a password passes the checks and is read as one. -/
lemma passes_of_password {password : String} (n : Node) (session : Session)
    (h : r.password? = some password) :
    n.check session r = .ok () ∧ Command.ofRequest r = .ok (.auth password) := by
  unfold Request.password? at h
  split at h
  · rename_i hname
    split at h
    · rename_i arg hargs
      constructor
      · rw [check_auth n session hname, arity_auth, hargs]
        rfl
      · rw [Command.ofRequest_auth hname hargs, Command.textOf, h]
        rfl
    · cases h
  · cases h

/-- A request that runs as AUTH shows the password. -/
lemma password_of_read {password : String} (hcheck : n.check session r = .ok ())
    (hread : Command.ofRequest r = .ok (.auth password)) : r.password? = some password := by
  obtain ⟨v, hverb, rfl, -⟩ := Command.askedBy_of_ofRequest hread
  have hname : r.name = Verb.auth.name := (Verb.name_of_ofName? hverb).symm
  rw [check_auth n session hname] at hcheck
  obtain ⟨arg, hargs⟩ := List.length_eq_one_iff.mp (checkArity_eq_ok.mp hcheck 1 rfl)
  obtain ⟨password', htext, hcommand⟩ := Command.ofRequest_auth_ok hname hargs hread
  cases hcommand
  rw [Request.password?_auth hname hargs, htext]

/-- **Whether a session has shown the secret is told by its last attempt.** -/
lemma authenticated_dispatch (n : Node) (around : Surroundings) (session : Session) (r : Request) :
    (n.dispatch around session r).2.2.authenticated =
      match r.password? with
      | some password => n.config.accepts password
      | none => session.authenticated := by
  obtain ⟨after, hanswered, hsession⟩ := n.answered_dispatch around session r
  have hafter : after.authenticated =
      match r.password? with
      | some password => n.config.accepts password
      | none => session.authenticated := by
    clear hsession
    generalize (n.dispatch around session r).1 = reply, (n.dispatch around session r).2.1 = left
      at hanswered
    cases hpassword : r.password? with
    | some password =>
      obtain ⟨hcheck, hread⟩ := passes_of_password n session hpassword
      cases hanswered with
      | refused stopped =>
        rw [hcheck] at stopped
        cases stopped
      | misread passed read =>
        rw [hread] at read
        cases read
      | attached passed read =>
        rw [hread] at read
        cases read
      | ran passed read =>
        rw [hread] at read
        cases read
        rfl
    | none =>
      cases hanswered with
      | refused stopped => rfl
      | misread passed read => rfl
      | attached passed read => rw [session_serveAttach]
      | ran passed read =>
        rw [session_run]
        split
        · rfl
        · rw [password_of_read passed read] at hpassword
          cases hpassword
        · rfl
        · rfl
        · rfl
  rw [hsession, ← hafter]
  split <;> rfl

end Node

/-! ## Runs of a service -/

/-- A node with the sessions of its connections. -/
structure Service where
  /-- The node. -/
  node : Node
  /-- The session of every connection. -/
  sessions : Nat → Session

namespace Service

/-- One thing that happens to a service. -/
inductive Event where
  /-- A request arrives on a connection and is served. -/
  | request (connection : Nat) (around : Surroundings) (r : Request)
  /-- Anything else happens to the node, which keeps its configuration: keys end, the store is
  saved, changes are delivered. -/
  | meanwhile (left : Node)

/-- The request that the event is on the connection `c`. -/
def Event.requestOn? (c : Nat) : Event → Option Request
  | .request connection _ r => if connection = c then some r else none
  | .meanwhile _ => none

/-- The requests on the connection `c`. -/
def requestsOn (c : Nat) (events : List Event) : List Request :=
  events.filterMap (Event.requestOn? c)

/-- The service after an event. -/
def step (s : Service) : Event → Service
  | .request connection around r =>
    let (_, node, session) := s.node.dispatch around (s.sessions connection) r
    ⟨node, Function.update s.sessions connection session⟩
  | .meanwhile left => { s with node := { left with config := s.node.config } }

/-- The service after a run. -/
def run (s : Service) (events : List Event) : Service :=
  events.foldl step s

/-- What is replied on the connection `c` when the event happens. -/
def reply? (s : Service) (c : Nat) : Event → Option Reply
  | .request connection around r =>
    if connection = c then some (s.node.dispatch around (s.sessions connection) r).1 else none
  | .meanwhile _ => none

/-- All that is replied on the connection `c` in a run. -/
def replies (c : Nat) : Service → List Event → List Reply
  | _, [] => []
  | s, e :: rest => (s.reply? c e).toList ++ replies c (s.step e) rest

/-- The connection `c` was just opened to a node with the secret. -/
structure Opened (secret : String) (c : Nat) (s : Service) : Prop where
  secret : s.node.config.secret = some secret
  fresh : s.sessions c = s.node.newSession

/-- None of the requests shows the secret. -/
def Unshown (secret : String) (requests : List Request) : Prop :=
  ∀ r ∈ requests, r.password? ≠ some secret

/-- From `s` to `t` nothing changed but flags of the session on the connection `c`, and what is not
data of the node. -/
structure OnlyFlags (c : Nat) (s t : Service) : Prop where
  unmoved : s.node.Unmoved t.node
  /-- The session works on the same database. -/
  db : (t.sessions c).db = (s.sessions c).db
  replaying : (t.sessions c).replaying = (s.sessions c).replaying
  /-- No other session changed at all. -/
  others : ∀ d, d ≠ c → t.sessions d = s.sessions d

variable {secret : String} {c : Nat} {s : Service}

@[simp] lemma config_step (e : Event) : (s.step e).node.config = s.node.config := by
  cases e with
  | request connection around r => exact s.node.config_dispatch around _ r
  | meanwhile left => rfl

/-- The flag of a session after an event, by the password that its request shows. -/
lemma authenticated_step (e : Event) :
    ((s.step e).sessions c).authenticated =
      match (e.requestOn? c).bind Request.password? with
      | some password => s.node.config.accepts password
      | none => (s.sessions c).authenticated := by
  cases e with
  | meanwhile left => rfl
  | request connection around r =>
    by_cases hown : connection = c
    · subst hown
      have hflag := s.node.authenticated_dispatch around (s.sessions connection) r
      simp only [step, Event.requestOn?, if_true, Function.update_self, Option.bind_some]
      exact hflag
    · simp [step, Event.requestOn?, hown, Function.update_of_ne (Ne.symm hown)]

/-- What is replied to an outsider when an event happens. -/
lemma reply?_outside (hsession : ¬ (s.sessions c).authenticated)
    (hsecret : s.node.config.secret = some secret) (e : Event) :
    s.reply? c e = (e.requestOn? c).map (Request.outsideReply secret) := by
  cases e with
  | meanwhile left => rfl
  | request connection around r =>
    by_cases hown : connection = c
    · subst hown
      obtain ⟨after, hanswered, -⟩ := s.node.answered_dispatch around (s.sessions connection) r
      simp [reply?, Event.requestOn?, (hanswered.outside hsession hsecret).1]
    · simp [reply?, Event.requestOn?, hown]

/-- What the request of an outsider changes. -/
lemma onlyFlags_step (hsession : ¬ (s.sessions c).authenticated)
    (hsecret : s.node.config.secret = some secret) (around : Surroundings) (r : Request) :
    s.OnlyFlags c (s.step (.request c around r)) := by
  obtain ⟨after, hanswered, hafter⟩ := s.node.answered_dispatch around (s.sessions c) r
  obtain ⟨-, hunmoved, hdb, hreplaying⟩ := hanswered.outside hsession hsecret
  refine ⟨hunmoved, ?_, ?_, fun d hd => Function.update_of_ne hd _ _⟩
  · simp only [step, Function.update_self, hafter]
    split <;> exact hdb
  · simp only [step, Function.update_self, hafter]
    split <;> exact hreplaying

/-! ### Whole runs -/

lemma run_append (s : Service) (events more : List Event) :
    s.run (events ++ more) = (s.run events).run more :=
  List.foldl_append

lemma config_run (s : Service) (events : List Event) :
    (s.run events).node.config = s.node.config := by
  induction events generalizing s with
  | nil => rfl
  | cons e rest ih => exact (ih (s.step e)).trans (config_step e)

lemma requestsOn_append (c : Nat) (events more : List Event) :
    requestsOn c (events ++ more) = requestsOn c events ++ requestsOn c more :=
  List.filterMap_append

lemma requestsOn_singleton (c : Nat) (e : Event) :
    requestsOn c [e] = (e.requestOn? c).toList := by
  rw [requestsOn, List.filterMap_cons, List.filterMap_nil]
  cases e.requestOn? c <;> rfl

lemma replies_append (c : Nat) (s : Service) (events more : List Event) :
    replies c s (events ++ more) = replies c s events ++ replies c (s.run events) more := by
  induction events generalizing s with
  | nil => rfl
  | cons e rest ih =>
    rw [List.cons_append, replies, replies, ih, List.append_assoc]
    rfl

lemma replies_singleton (c : Nat) (s : Service) (e : Event) :
    replies c s [e] = (s.reply? c e).toList := by
  rw [replies, replies, List.append_nil]

/-- After any run the session is one that has shown the secret exactly if its last attempt did. -/
lemma Opened.authenticated_iff (h : s.Opened secret c) (events : List Event) :
    ((s.run events).sessions c).authenticated ↔
      ((requestsOn c events).filterMap Request.password?).getLast? = some secret := by
  induction events using List.reverseRecOn with
  | nil =>
    have hfresh : (s.sessions c).authenticated = false := by
      rw [h.fresh, Node.newSession, h.secret]
      rfl
    simp [run, requestsOn, hfresh]
  | append_singleton events e ih =>
    have hsecret : (s.run events).node.config.secret = some secret := by
      rw [config_run, h.secret]
    rw [run_append, requestsOn_append, requestsOn_singleton, List.filterMap_append]
    change (((s.run events).step e).sessions c).authenticated ↔ _
    rw [authenticated_step]
    cases hrequest : e.requestOn? c with
    | none => simpa using ih
    | some r =>
      cases hpassword : r.password? with
      | none => simpa [hpassword] using ih
      | some password => simp [hpassword, Node.accepts_iff hsecret]

lemma Opened.outside (h : s.Opened secret c) {events : List Event}
    (hunshown : Unshown secret (requestsOn c events)) :
    ¬ ((s.run events).sessions c).authenticated := by
  rw [h.authenticated_iff]
  intro hlast
  obtain ⟨r, hr, hpassword⟩ := List.mem_filterMap.mp (List.mem_of_getLast? hlast)
  exact hunshown r hr hpassword

/-- What an event is answered after a run in which the secret was not shown. -/
lemma Opened.reply?_eq (h : s.Opened secret c) {events : List Event}
    (hunshown : Unshown secret (requestsOn c events)) (e : Event) :
    (s.run events).reply? c e = (e.requestOn? c).map (Request.outsideReply secret) :=
  reply?_outside (h.outside hunshown) (by rw [config_run, h.secret]) e

/-- One more event is answered like those before. -/
lemma Opened.replies_concat (h : s.Opened secret c) {events : List Event}
    (hunshown : Unshown secret (requestsOn c events))
    (hbefore : replies c s events = (requestsOn c events).map (Request.outsideReply secret))
    (e : Event) :
    replies c s (events ++ [e]) =
      (requestsOn c (events ++ [e])).map (Request.outsideReply secret) := by
  rw [replies_append, hbefore, replies_singleton, h.reply?_eq hunshown, requestsOn_append,
    requestsOn_singleton, List.map_append]
  cases e.requestOn? c <;> rfl

/-- What is replied in a run in which the secret is not shown. -/
lemma Opened.replies_eq (h : s.Opened secret c) {events : List Event}
    (hunshown : Unshown secret (requestsOn c events)) :
    replies c s events = (requestsOn c events).map (Request.outsideReply secret) := by
  induction events using List.reverseRecOn with
  | nil => rfl
  | append_singleton events e ih =>
    rw [requestsOn_append] at hunshown
    have hfirst : Unshown secret (requestsOn c events) :=
      fun r hr => hunshown r (List.mem_append_left _ hr)
    exact h.replies_concat hfirst (ih hfirst) e

/-- **Outsiders learn and change nothing.**  On a connection that was just opened to a node with a
secret:

* all replies up to the one to the request that shows the secret are told from the requests and the
  secret alone; so they are the same in two runs with the same requests, whatever the nodes hold and
  whatever happens besides;
* each of these requests changes nothing but flags of its own session;
* after any run the session counts as one that has shown the secret exactly if the last password
  that was shown on the connection is the secret. -/
theorem outsiders_learn_and_change_nothing (secret : String) (c : Nat) :
    (∀ s t : Service, s.Opened secret c → t.Opened secret c → ∀ events events' : List Event,
      Unshown secret (requestsOn c events) → requestsOn c events = requestsOn c events' →
      ∀ (around around' : Surroundings) (r : Request),
        replies c s (events ++ [.request c around r]) =
            (requestsOn c events ++ [r]).map (Request.outsideReply secret) ∧
          replies c s (events ++ [.request c around r]) =
            replies c t (events' ++ [.request c around' r])) ∧
    (∀ s : Service, s.Opened secret c → ∀ events : List Event,
      Unshown secret (requestsOn c events) → ∀ (around : Surroundings) (r : Request),
        (s.run events).OnlyFlags c ((s.run events).step (.request c around r))) ∧
    (∀ s : Service, s.Opened secret c → ∀ events : List Event,
      ((s.run events).sessions c).authenticated ↔
        ((requestsOn c events).filterMap Request.password?).getLast? = some secret) := by
  have hrequest : ∀ (events : List Event) (around : Surroundings) (r : Request),
      requestsOn c (events ++ [.request c around r]) = requestsOn c events ++ [r] := by
    intro events around r
    rw [requestsOn_append, requestsOn_singleton, Event.requestOn?, if_pos rfl]
    rfl
  refine ⟨?_, ?_, fun s h events => h.authenticated_iff events⟩
  · intro s t hs ht events events' hunshown hsame around around' r
    have hleft := hs.replies_concat hunshown (hs.replies_eq hunshown) (.request c around r)
    rw [hrequest] at hleft
    rw [hsame] at hunshown
    have hright := ht.replies_concat hunshown (ht.replies_eq hunshown) (.request c around' r)
    rw [hrequest, ← hsame] at hright
    exact ⟨hleft, hleft.trans hright.symm⟩
  · intro s h events hunshown around r
    have hsecret : (s.run events).node.config.secret = some secret := by
      rw [config_run, h.secret]
    exact onlyFlags_step (h.outside hunshown) hsecret around r

/-- A node that asks for a secret and holds the store; every client but the first has shown it. -/
def asking (store : Store) : Service where
  node := (Node.new { Config.default with authority := true, secret := some "key" }
    (Directory.empty []) 0).withStore store
  sessions c := Session.new (c != 0)

/-- Looking for a key and showing a wrong secret, and then the right one: it makes no difference
whether the key exists, and whether another client removes it. -/
theorem outsiders_learn_and_change_nothing_asking :
    let empty := asking (Store.new true)
    let holding := asking ((Store.new true).set "0" "a" [])
    let tries : List Event :=
      [.request 0 .alone ⟨"get", [Bytes.ofText "a"]⟩, .request 0 .alone ⟨"auth", [[]]⟩]
    let removal : Event := .request 1 .alone ⟨"flushall", []⟩
    let right : Request := ⟨"auth", [Bytes.ofText "key"]⟩
    replies 0 empty (tries ++ [.request 0 .alone right]) =
        replies 0 holding (removal :: tries ++ [.request 0 .alone right]) ∧
      (holding.run tries).OnlyFlags 0 ((holding.run tries).step (.request 0 .alone right)) ∧
      ((empty.run (tries ++ [.request 0 .alone right])).sessions 0).authenticated := by
  intro empty holding tries removal right
  have hempty : empty.Opened "key" 0 := ⟨rfl, rfl⟩
  have hholding : holding.Opened "key" 0 := ⟨rfl, rfl⟩
  have hunshown : Unshown "key" (requestsOn 0 tries) := by
    unfold Unshown
    decide
  obtain ⟨hreplies, hflags, hshown⟩ := outsiders_learn_and_change_nothing "key" 0
  refine ⟨(hreplies empty holding hempty hholding tries (removal :: tries) hunshown rfl .alone
    .alone right).2, hflags holding hholding tries hunshown .alone right, ?_⟩
  rw [hshown empty hempty]
  decide

end Service

end ReplicatedStore
