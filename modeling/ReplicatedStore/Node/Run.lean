import ReplicatedStore.Change.Encoding
import ReplicatedStore.Command.Parser
import ReplicatedStore.Node.Info

/-!
# Running commands

A command runs on a node, in a session, and gives an answer or a refusal.  A change that was
recorded elsewhere runs in a session of its own; it must be the one that follows the current
version, and whatever goes wrong inside it is answered as if it had gone well, so that later changes
can follow.
-/

namespace ReplicatedStore

/-- What running a command gives: the answer, the node and the session after it. -/
structure Ran where
  /-- The reply, or why there is none. -/
  answer : Except Refusal Reply
  /-- The node after the command. -/
  node : Node
  /-- The session after the command. -/
  session : Session

namespace Operation

/-- The reply to an operation that was carried out. -/
def reply (op : Operation) : Answer → Reply
  | .done =>
    match op with
    | .expire _ _ => .integer 1
    | .move _ _ => .integer 1
    | _ => .ok
  | .flag value => .ofBool value
  | .count n => .count n
  | .number value => .integer value
  | .data found => .ofOption found

/-- The reply to an operation that the store refused.  A key that cannot be moved is no error. -/
def refuse (op : Operation) (fault : StoreError) : Except Refusal Reply :=
  match op with
  | .move _ _ => .ok (.integer 0)
  | .add _ _ => .ok (.error fault.message)
  | _ => .error (.store fault)

end Operation

namespace Node

variable [Clock]

/-- Carries an operation out on the database of a session. -/
def edit (n : Node) (around : Surroundings) (session : Session) (op : Operation) : Ran :=
  let (result, store) := op.perform n.store around.now around.pick session.db
  { answer := match result with
      | .ok answer => .ok (op.reply answer)
      | .error fault => op.refuse fault
    node := n.withStore store
    session }

/-- Goes to another database.  This is a change on the authority, and where a recorded change is
run; elsewhere the database is only made to exist. -/
def select (n : Node) (session : Session) (db : String) : Ran :=
  let store :=
    if n.store.authority || session.replaying then n.store.select db else n.store.ensure db
  { answer := .ok .ok, node := n.withStore store, session := { session with db } }

/-- Holds a password against the secret of the node.  A wrong one also takes back an earlier right
one. -/
def authenticate (n : Node) (session : Session) (password : String) : Ran :=
  { answer := .ok (if n.config.accepts password then .ok
      else .error "authentication password incorrect")
    node := n
    session := { session with authenticated := n.config.accepts password } }

/-- Writes the snapshot file and tells replicas to do the same. -/
def saveNow (n : Node) (around : Surroundings) (session : Session) : Ran :=
  match n.save around with
  | (.error fault, left) => ⟨.error (.format fault), left, session⟩
  | (.ok (), saved) =>
    ⟨.ok .ok, saved.withStore (saved.store.journalUnversioned session.db Verb.save.name), session⟩

/-- Asks for the snapshot file to be written and tells replicas to do the same. -/
def saveLater (n : Node) (session : Session) : Ran :=
  let asked := n.requestSave
  let journaled := asked.store.journalUnversioned session.db Verb.saveLater.name
  ⟨.ok .ok, asked.withStore journaled, session⟩

/-- Stops the node and tells replicas to do the same. -/
def shutdown (n : Node) (session : Session) : Ran :=
  let told := n.withStore (n.store.journalUnversioned session.db Verb.shutdown.name)
  ⟨.ok .ok, { told with halting := true }, { session with closing := true }⟩

/-- Puts an encoded snapshot in place of the whole store. -/
def replaceAll (n : Node) (around : Surroundings) (session : Session) (version : Nat)
    (data : Bytes) : Ran :=
  match n.store.replace around.now around.wall version data with
  | (.ok (), store) => ⟨.ok .ok, n.withStore store, session⟩
  | (.error fault, store) => ⟨.error (.store fault), n.withStore store, session⟩

/-- Runs a command that is no recorded change.  A replica cannot be attached this way, because that
waits for another node. -/
def runOwn (n : Node) (around : Surroundings) (session : Session) : Command → Ran
  | .edit op => n.edit around session op
  | .decrement key amount =>
    if Decimal.fitsSigned64 (-amount) then n.edit around session (.add key (-amount))
    else ⟨.error (.command (.notInteger (Decimal.ofInt amount))), n, session⟩
  | .ask q =>
    ⟨(q.answer n.store around.now around.pick session.db).mapError .store, n, session⟩
  | .select db => n.select session db
  | .ping => ⟨.ok (.simple "PONG"), n, session⟩
  | .auth password => n.authenticate session password
  | .info => ⟨.ok (.bulk (Bytes.ofText (n.info around))), n, session⟩
  | .save => n.saveNow around session
  | .saveLater => n.saveLater session
  | .lastSave => ⟨.ok (.integer (Decimal.asSigned64 n.store.lastSave)), n, session⟩
  | .shutdown => n.shutdown session
  | .quit => ⟨.ok .ok, n, { session with closing := true }⟩
  | .version => ⟨.ok (.integer (Decimal.asSigned64 n.store.version)), n, session⟩
  | .attach replica =>
    ⟨.error (.command (.invalidArgument Verb.attach.name replica.toText)), n, session⟩
  | .replay _ => ⟨.ok .ok, n, session⟩
  | .replaceAll version data => n.replaceAll around session version data

/-- Does the change follow the current version?  One without a version always does. -/
def checkVersion (n : Node) (c : Change) : Except Refusal Unit :=
  match c.version with
  | some version =>
    if version = n.store.revision + 1 then .ok ()
    else .error (.store (.versionMismatch version n.store.revision))
  | none => .ok ()

/-- Is the command one that replicas run when it arrives as a recorded change? -/
def isReplayable (command : String) : Bool :=
  match Verb.ofName? command with
  | some v => v.isReplayable
  | none => false

/-- The node after a recorded change whose turn it is.  A command that replicas do not run, and one
that goes wrong, is passed over. -/
def replayChange (n : Node) (around : Surroundings) (c : Change) : Node :=
  if isReplayable c.command then
    match Command.ofRequest (Request.of c.command c.args) with
    | .ok command => (n.runOwn around (Session.replay c.db) command).node
    | .error _ => n
  else n

/-- Runs a recorded change, which comes encoded. -/
def replay (n : Node) (around : Surroundings) (session : Session) (envelope : Bytes) : Ran :=
  match Change.decode envelope with
  | .error fault => ⟨.error (.format fault), n, session⟩
  | .ok c =>
    match n.checkVersion c with
    | .error refusal => ⟨.error refusal, n, session⟩
    | .ok () => ⟨.ok .ok, n.replayChange around c, session⟩

/-- Runs a command. -/
def run (n : Node) (around : Surroundings) (session : Session) : Command → Ran
  | .replay envelope => n.replay around session envelope
  | command => n.runOwn around session command

end Node

end ReplicatedStore
