import ReplicatedStore.Node.Replication
import ReplicatedStore.Node.Run

/-!
# Serving requests

Every request gets one reply.  Before a command runs, the client must have shown the secret, the
command must be known and have the right number of arguments, a change must be allowed on this node,
and the first argument must name what the command works on; the first of these that fails is the one
that is reported.
-/

namespace ReplicatedStore.Node

variable [Clock]

/-- May the command change data on this node, in this session, now? -/
def checkAccess (n : Node) (session : Session) (access : Access) : Except Refusal Unit :=
  if access = .write then
    if !n.config.authority then .error .readOnly
    else if n.halting || session.closing then .error .shuttingDown
    else .ok ()
  else .ok ()

/-- Does the first argument name what the command works on?  It is looked at before it is known to
be UTF-8. -/
def checkDemand (n : Node) (session : Session) (demand : Demand) (args : List Bytes) :
    Except Refusal Unit :=
  match args.head? with
  | none => .ok ()
  | some key => (demand.check (n.store.typeOf session.db key.lossyText)).mapError .store

/-- Does the command take so many arguments? -/
def checkArity (d : Descriptor) (r : Request) : Except Refusal Unit :=
  match d.arity with
  | none => .ok ()
  | some expected =>
    if r.args.length = expected then .ok ()
    else .error (.command (.wrongArity r.name expected r.args.length))

/-- All that is checked before a command runs. -/
def check (n : Node) (session : Session) (r : Request) : Except Refusal Unit :=
  if !session.authenticated && r.name != Verb.auth.name then .error .notAuthenticated
  else
    match Verb.ofName? r.name with
    | none => .error (.command (.unknownCommand r.name))
    | some v => do
      checkArity v.descriptor r
      n.checkAccess session v.descriptor.access
      n.checkDemand session v.descriptor.demand r.args

/-- The replica that the request asks to attach, if it passes the checks. -/
def attachTarget? (n : Node) (session : Session) (r : Request) : Option Address :=
  match n.check session r, Command.ofRequest r with
  | .ok (), .ok (.attach replica) => some replica
  | _, _ => none

/-- The reply that an answer or a refusal is. -/
def replyOf : Except Refusal Reply → Reply
  | .ok reply => reply
  | .error refusal => .error refusal.message

/-- Asks for a save once enough changes were made since the last one. -/
def saveIfDue (n : Node) : Node :=
  if n.config.updateCount ≤ n.store.changesSinceSave then n.requestSave else n

/-- Attaches a replica and says how it went. -/
def serveAttach (n : Node) (around : Surroundings) (session : Session) (replica : Address) :
    Reply × Node × Session :=
  match n.attach around replica with
  | (.ok (), attached) => (.ok, attached, session)
  | (.error message, left) => (.error message, left, session)

/-- Runs a request that passed the checks.  It counts as a command even if its arguments are
wrong. -/
def execute (n : Node) (around : Surroundings) (session : Session) (r : Request) :
    Reply × Node × Session :=
  let counted := n.withStore n.store.recordOperation
  match Command.ofRequest r with
  | .error fault => (.error fault.message, counted, session)
  | .ok (.attach replica) =>
    let (reply, left, after) := counted.serveAttach around session replica
    (reply, left.saveIfDue, after)
  | .ok command =>
    let ran := counted.run around session command
    (replyOf ran.answer, ran.node.saveIfDue, ran.session)

/-- Serves a request: the reply, the node and the session after it.  While a node is about to stop,
every connection is closed after its next reply. -/
def dispatch (n : Node) (around : Surroundings) (session : Session) (r : Request) :
    Reply × Node × Session :=
  let (reply, left, after) := match n.check session r with
    | .ok () => n.execute around session r
    | .error refusal => (.error refusal.message, n, session)
  (reply, left, if left.halting then { after with closing := true } else after)

end ReplicatedStore.Node
