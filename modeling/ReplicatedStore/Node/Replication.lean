import ReplicatedStore.Change.Encoding
import ReplicatedStore.Node.Basic

/-!
# Replication

A replica is attached with a copy of the store and is then sent every later change.  While there is
a replica, or one is being attached, the journal of the store records; its changes wait there until
they are delivered.  A replica that does not take a change, or does not answer, loses its link.

Attaching has two steps, and changes may be made between them: `Node.startAttach` turns recording on
and takes the copy, and `Node.finishAttach` enters the link at the version of that copy.  A change
that the copy of a link contains already is not sent over it.
-/

namespace ReplicatedStore

namespace Node

variable [Clock]

/-- The link to a replica. -/
def link? (n : Node) (replica : Address) : Option Link :=
  n.links.find? fun l => l.replica = replica

/-- Stops recording when there is no link. -/
def settleJournal (n : Node) : Node :=
  if n.links.isEmpty then n.withStore (n.store.setRecording false) else n

/-- The first step of attaching: recording is on and a copy of the store is taken. -/
def startAttach (n : Node) (around : Surroundings) : Except FormatError (Nat × Bytes) × Node :=
  let recording := n.store.setRecording true
  (recording.dump around.now around.wall, n.withStore recording)

/-- The second step of attaching: the replica took the copy of the given version, or did not. -/
def finishAttach (n : Node) (replica : Address) (version : Nat) (taken : Bool) : Node :=
  (if taken then { n with links := n.links ++ [⟨replica, version⟩] } else n).settleJournal

/-- What is said when a replica cannot be attached. -/
def attachMessage (replica : Address) : String :=
  "Couldn't connect to server at ip '" ++ replica.host ++ "' port '" ++
    Decimal.ofNat replica.port ++ "'"

/-- Attaches a replica.  One that is linked already and answers is left as it is. -/
def attach (n : Node) (around : Surroundings) (replica : Address) : Except String Unit × Node :=
  if (n.link? replica).isSome ∧ around.answers replica then (.ok (), n)
  else
    let unlinked := { n with links := n.links.filter fun l => l.replica ≠ replica }
    match unlinked.startAttach around with
    | (.error _, started) => (.error (attachMessage replica), started.settleJournal)
    | (.ok (version, _), started) =>
      let attached := started.finishAttach replica version (around.takesCopy replica)
      (if around.takesCopy replica then .ok () else .error (attachMessage replica), attached)

/-- Is the change to be sent over the link?  Its copy contains changes up to its version. -/
def Link.awaits (l : Link) (c : Change) : Bool :=
  match c.version with
  | some version => l.version < version
  | none => true

/-- The link once it took the change. -/
def Link.advance (l : Link) (c : Change) : Link :=
  { l with version := c.version.getD l.version }

/-- Sends the change over the link, which is lost when the replica does not take it. -/
def Link.send? (l : Link) (c : Change) (takes : Address → Bool) : Option Link :=
  if !Link.awaits l c then some l
  else if takes l.replica then some (Link.advance l c)
  else none

/-- Sends a change to all replicas, where `takes` tells which of them take it. -/
def deliver (n : Node) (c : Change) (takes : Address → Bool) : Node :=
  let links := match c.encode with
    | .error _ => []
    | .ok _ => n.links.filterMap fun l => Link.send? l c takes
  { n with links }.settleJournal

/-- Delivers the change that has waited longest, if one waits. -/
def deliverNext (n : Node) (takes : Address → Bool) : Node :=
  match n.store.journal.pending with
  | [] => n
  | c :: rest =>
    let journal := { n.store.journal with pending := rest }
    (n.withStore { n.store with journal }).deliver c takes

end Node

end ReplicatedStore
