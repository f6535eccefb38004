import ReplicatedStore.Node.Dispatch
import ReplicatedStore.Request.Encoding

/-!
# Connections

Octets that arrive on a connection are kept until they make a request; every request is served and
answered before the next one is looked for.  A connection ends when its session asks for it, when
the client closes it, or when the octets cannot become a request any more.
-/

namespace ReplicatedStore

/-- A connection of a client. -/
structure Connection where
  /-- The state of the session. -/
  session : Session
  /-- The octets that arrived and were not yet taken. -/
  arrived : Bytes
  /-- Is the connection closed? -/
  closed : Bool
  deriving DecidableEq

/-- What a connection has to say. -/
inductive Said where
  /-- The reply to a request. -/
  | reply (r : Reply)
  /-- Why the connection ends. -/
  | fatal (message : String)

/-- One thing that was said, with the node and the session right after it. -/
structure Event where
  /-- The request that it answers. -/
  request : Option Request
  /-- What was said. -/
  said : Said
  /-- The node after it. -/
  node : Node
  /-- The session after it. -/
  session : Session

namespace Node

variable [Clock]

/-- The replica that is asked for on a connection when the octets arrive there. -/
def attachTargetOf? (n : Node) (c : Connection) (data : Bytes) : Option Address :=
  match Request.decode n.config.maxRequestSize (c.arrived ++ data) with
  | .request r => n.attachTarget? c.session r
  | _ => none

/-- A new connection to the node. -/
def connect (n : Node) : Connection :=
  ⟨n.newSession, [], false⟩

/-- Serves what has arrived, at most `budget` requests, where `ended` tells that nothing more
will. -/
def serveArrived (around : Surroundings) (ended : Bool) :
    Nat → Node → Connection → List Event × Node × Connection
  | 0, n, c => ([], n, c)
  | budget + 1, n, c =>
    let arrival := Request.decode n.config.maxRequestSize c.arrived
    let taken := { c with arrived := Request.left c.arrived arrival }
    let goOn (request : Option Request) (reply : Reply) (after : Node) (session : Session) :
        List Event × Node × Connection :=
      let event : Event := ⟨request, .reply reply, after, session⟩
      if session.closing then ([event], after, { taken with session, closed := true })
      else
        let (events, last, left) := serveArrived around ended budget after { taken with session }
        (event :: events, last, left)
    match arrival with
    | .tooLarge size limit =>
      ([⟨none, .fatal (Request.tooLargeMessage size limit), n, c.session⟩], n,
        { c with closed := true })
    | .incomplete =>
      if !ended then ([], n, c)
      else if c.arrived.isEmpty then ([], n, { c with closed := true })
      else ([⟨none, .fatal Request.unfinishedMessage, n, c.session⟩], n, { c with closed := true })
    | .refused fault => goOn none (.error fault.message) n c.session
    | .request r =>
      let (reply, after, session) := n.dispatch around c.session r
      goOn r reply after session

/-- Takes octets that arrive on a connection.  Every request takes all that arrived, so two rounds
are enough. -/
def receive (n : Node) (around : Surroundings) (c : Connection) (data : Bytes) (ended : Bool) :
    List Event × Node × Connection :=
  if c.closed then ([], n, c)
  else serveArrived around ended 2 n { c with arrived := c.arrived ++ data }

end Node

end ReplicatedStore
