import ReplicatedStore.CommandLine
import ReplicatedStore.Node.Connection
import ReplicatedStore.Reply.Encoding
import Std.Async.DNS
import Std.Async.TCP
import Std.Async.Timer
import Std.Sync.Mutex

/-!
# The program

Starts the node that the command line describes and serves it to clients over TCP until it is shut
down.  All that is done here is to carry octets, files, clocks and the answers of replicas to the
node and back.  One lock keeps the node; whoever holds it lets the node do one thing and then does
what follows from it: changes are delivered to the replicas, and the snapshot file is written.
-/

open Std.Async Std.Net

namespace ReplicatedStore.Program

-- The clock of the program counts nanoseconds.
attribute [local instance] Clock.nanos

/-- A node that runs, with the sockets of its replicas. -/
structure Running where
  /-- The node. -/
  node : Node
  /-- The sockets that lead to its replicas. -/
  replicas : List (Address × TCP.Socket.Client)

/-- What the threads of the program share. -/
structure Shared where
  /-- The node. -/
  running : Std.Mutex Running
  /-- Are all connections to be closed? -/
  closing : IO.Ref Bool
  /-- Is every reply shown? -/
  debug : Bool

/-! ## Octets -/

/-- Octets as they are sent. -/
def toArray (b : Bytes) : ByteArray := ⟨b.toArray⟩

/-- Octets as they are received. -/
def ofArray (a : ByteArray) : Bytes := a.data.toList

/-- How many octets are received at once. -/
def portion : UInt64 := 65536

/-- How often the program looks after what nobody tells it, in milliseconds. -/
def tick : Nat := 50

/-- How long a replica may take to reply, in milliseconds. -/
def replyPatience : Nat := 10000

/-- How long clients may stay after the node was shut down, in milliseconds. -/
def grace : Nat := 15000

/-- What comes from a socket. -/
inductive Heard where
  /-- Nothing for a while. -/
  | nothing
  /-- Octets. -/
  | octets (b : Bytes)
  /-- The end. -/
  | ended

/-- Waits for octets from a socket. -/
def hear (socket : TCP.Socket.Client) (patience : Nat) : IO Heard :=
  Async.block do
    let timer ← Selector.sleep (.ofNat patience)
    Selectable.one #[
      .case (socket.recvSelector portion) fun received => return match received with
        | some a => Heard.octets (ofArray a)
        | none => Heard.ended,
      .case timer fun _ => return Heard.nothing]

/-- Sends octets over a socket. -/
def say (socket : TCP.Socket.Client) (b : Bytes) : IO Unit :=
  (socket.send (toArray b)).block

/-! ## Replicas -/

/-- The socket addresses of an address. -/
def resolve (a : Address) : IO (List SocketAddress) := do
  match IPv4Addr.ofString a.host with
  | some ip => return [.v4 ⟨ip, a.port.toUInt16⟩]
  | none =>
    let found ← (DNS.getAddrInfo a.host (Decimal.ofNat a.port)).block
    return found.toList.map fun
      | .v4 ip => .v4 ⟨ip, a.port.toUInt16⟩
      | .v6 ip => .v6 ⟨ip, a.port.toUInt16⟩

/-- A socket that leads to the first of the addresses that can be reached. -/
def connectFirst : List SocketAddress → IO (Option TCP.Socket.Client)
  | [] => return none
  | address :: others => do
    try
      let socket ← TCP.Socket.Client.mk
      (socket.connect address).block
      return some socket
    catch _ => connectFirst others

/-- Waits for a reply of which octets have arrived already. -/
partial def awaitReply (socket : TCP.Socket.Client) (arrived : Bytes) : IO (Option Reply) := do
  match Reply.parse arrived with
  | .ok (reply, _) => return some reply
  | .error .incomplete =>
    match ← hear socket replyPatience with
    | .octets more => awaitReply socket (arrived ++ more)
    | _ => return none
  | .error _ => return none

/-- Sends a request to a replica: does it reply with the expected text? -/
def ask (socket : TCP.Socket.Client) (request : Bytes) (expected : String) : IO Bool := do
  try
    say socket request
    match ← awaitReply socket [] with
    | some (.simple text) => return text == expected
    | _ => return false
  catch _ => return false

/-- Sends a copy of the store to a replica, and answers its socket if the replica takes the copy. -/
def sendCopy (replica : Address) (version : Nat) (data : Bytes) :
    IO (Option TCP.Socket.Client) := do
  try
    let some socket ← connectFirst (← resolve replica) | return none
    let request := Request.encode (Bytes.ofText Verb.replaceAll.name)
      [Bytes.ofText (Decimal.ofNat version)] (some data)
    return if ← ask socket request "OK" then some socket else none
  catch _ => return none

/-- Sends a change to the replicas that await it, and answers those that do not take it. -/
def sendChange (r : Running) (c : Change) : IO (List Address) := do
  let .ok envelope := c.encode | return []
  let request := Request.encode (Bytes.ofText Verb.replay.name) [] (some envelope)
  let awaiting := r.node.links.filter fun l => Node.Link.awaits l c
  let refusing ← awaiting.filterM fun l => do
    match r.replicas.lookup l.replica with
    | some socket => return !(← ask socket request "OK")
    | none => return true
  return refusing.map Link.replica

/-- Delivers all changes that wait. -/
partial def deliverAll (r : Running) : IO Running := do
  match r.node.store.journal.pending with
  | [] => return r
  | c :: _ =>
    let refusing ← sendChange r c
    let node := r.node.deliverNext fun replica => !refusing.contains replica
    deliverAll ⟨node, r.replicas.filter fun (replica, _) => (node.link? replica).isSome⟩

/-! ## Files -/

/-- The content of a file, if it can be read. -/
def readFile (path : String) : IO (Option Bytes) := do
  try return some (ofArray (← IO.FS.readBinFile path))
  catch _ => return none

/-- Takes a file over from the disk, and the directory that it is in, as far as they are there. -/
def takeOver (d : Directory) (path : String) : IO Directory := do
  let place := (← IO.currentDir) / path
  let folder := place.parent.getD place
  let known :=
    if ← folder.isDir then { d with folders := Directory.segments folder.toString :: d.folders }
    else d
  match ← readFile path with
  | some content => return (known.write path content).toOption.getD known
  | none => return known

/-- Writes the snapshot file through one beside it, so that there is a whole one at any time. -/
def writeSnapshot (n : Node) : IO Unit := do
  if let .ok content := n.directory.read n.config.snapshotFile then
    let beside := n.config.snapshotFile ++ ".tmp"
    IO.FS.writeBinFile beside (toArray content)
    IO.FS.rename beside n.config.snapshotFile

/-! ## The node -/

/-- The clocks, a random number, and what is known of replicas. -/
def surroundings (answers takesCopy : Bool) : IO Surroundings := do
  let wall ← Std.Time.Timestamp.now
  return {
    now := ← IO.monoNanosNow
    wall := wall.toMillisecondsSinceUnixEpoch.toInt.toNat
    pick := ← IO.rand 0 0x3FFFFFFF
    answers := fun _ => answers
    takesCopy := fun _ => takesCopy }

/-- Lets the node do one thing, and then does what follows from it. -/
def act {α : Type} (shared : Shared) (what : Running → IO (α × Running)) : IO α :=
  shared.running.atomically do
    let before ← get
    let (answer, after) ← what { before with node := before.node.endKeys (← IO.monoNanosNow) }
    let delivered ← deliverAll after
    let saved := delivered.node.saveAsked (← surroundings false false)
    let mark (n : Node) := (n.store.saveMark, n.store.lastSave)
    if mark saved ≠ mark before.node then
      try writeSnapshot saved catch e => IO.eprintln (toString e)
    set { delivered with node := saved }
    return answer

/-- Serves octets that arrive on a connection.  A replica that they ask for is sent its copy
first. -/
def receive (c : Connection) (data : Bytes) (ended : Bool) (r : Running) :
    IO ((List Event × Connection) × Running) := do
  let serve (r : Running) (around : Surroundings) :=
    let (events, node, left) := r.node.receive around c data ended
    ((events, left), { r with node })
  let around ← surroundings false false
  let some replica := r.node.attachTargetOf? c data | return serve r around
  let linked := if (r.node.link? replica).isSome then r.replicas.lookup replica else none
  let answers ← match linked with
    | some socket => ask socket (Request.encode (Bytes.ofText Verb.ping.name) [] none) "PONG"
    | none => pure false
  if answers then return serve r { around with answers := fun _ => true }
  let .ok (version, copy) := (r.node.startAttach around).1 | return serve r around
  match ← sendCopy replica version copy with
  | none => return serve r around
  | some socket =>
    let replicas := (replica, socket) :: r.replicas.filter fun (other, _) => other ≠ replica
    return serve { r with replicas } { around with takesCopy := fun _ => true }

/-- Sends what a connection has to say. -/
def tell (shared : Shared) (socket : TCP.Socket.Client) (e : Event) : IO Unit := do
  match e.said with
  | .reply reply =>
    if shared.debug then IO.eprintln reply.display
    say socket reply.encode
  | .fatal message => IO.eprintln message

/-- Serves a connection until it ends. -/
partial def serve (shared : Shared) (socket : TCP.Socket.Client) (c : Connection) : IO Unit := do
  match ← hear socket tick with
  | .nothing => unless ← shared.closing.get do serve shared socket c
  | .octets data => answer (← act shared (receive c data false))
  | .ended => answer (← act shared (receive c [] true))
where
  /-- Sends what is to be said, and goes on if the connection stays open. -/
  answer (said : List Event × Connection) : IO Unit := do
    said.1.forM (tell shared socket)
    unless said.2.closed do serve shared socket said.2

/-- Counts a client that comes or goes. -/
def count (shared : Shared) (change : Node → Node) : IO Node :=
  act shared fun r => return (r.node, { r with node := change r.node })

/-- Serves a client from its first octet to its last. -/
def serveClient (shared : Shared) (socket : TCP.Socket.Client) : IO Unit := do
  let node ← count shared fun n =>
    { n with openConnections := n.openConnections + 1, totalConnections := n.totalConnections + 1 }
  try
    serve shared socket node.connect
    socket.shutdown.block
  catch e => IO.eprintln (toString e)
  let _ ← count shared fun n => { n with openConnections := n.openConnections - 1 }

/-- The next client, if one comes within a tick. -/
def nextClient (server : TCP.Socket.Server) : IO (Option TCP.Socket.Client) :=
  Async.block do
    let timer ← Selector.sleep (.ofNat tick)
    Selectable.one #[
      .case server.acceptSelector fun socket => return some socket,
      .case timer fun _ => return none]

/-- Takes clients until the node is about to stop. -/
partial def acceptClients (shared : Shared) (server : TCP.Socket.Server) : IO Unit := do
  let node ← count shared id
  unless node.halting do
    if let some socket ← nextClient server then
      let _ ← IO.asTask (serveClient shared socket) Task.Priority.dedicated
    acceptClients shared server

/-- Waits until all clients are gone, but not past the deadline. -/
partial def awaitClients (shared : Shared) (deadline : Nat) : IO Unit := do
  let node ← count shared id
  if 0 < node.openConnections && (← IO.monoMsNow) < deadline then
    IO.sleep 50
    awaitClients shared deadline

/-- Saves the node one last time. -/
def saveLast (shared : Shared) : IO Unit := do
  let around ← surroundings false false
  act shared fun r => do
    let (result, saved) := r.node.save around
    if let .error fault := result then IO.eprintln fault.message
    return ((), { r with node := saved })

/-- Fills the store of a new node.  Files that a seed file includes are read when they are asked
for. -/
partial def recover (n : Node) : IO (Except StartFault Unit × Node) := do
  match n.recover (← surroundings false false) with
  | (.error (.seed (.unreadable path .notFound)), _) =>
    let directory ← takeOver n.directory path
    if directory.hasFile path then recover { n with directory }
    else return (.error (.seed (.unreadable path .notFound)), n)
  | result => return result

/-- What is said about a node that cannot be started. -/
def message : StartFault → String
  | .seed fault => fault.message
  | .format fault => fault.message

/-- Serves a node from its start to its end. -/
def run (config : Config) (debug : Bool) : IO UInt32 := do
  let some address := Address.ofText? config.listen
    | IO.eprintln ("cannot listen on " ++ config.listen)
      return 1
  let some place := (← resolve address).head?
    | IO.eprintln ("cannot listen on " ++ config.listen)
      return 1
  let server ← TCP.Socket.Server.mk
  server.bind place
  server.listen 128
  let home := Directory.empty (Directory.segments (← IO.currentDir).toString)
  let directory ← takeOver (← takeOver home config.seedFile) config.snapshotFile
  let (result, node) ← recover (Node.new config directory (← IO.monoNanosNow))
  if let .error fault := result then
    IO.eprintln (message fault)
    return 1
  unless directory.hasFile config.snapshotFile do writeSnapshot node
  let shared : Shared := ⟨← Std.Mutex.new ⟨node, []⟩, ← IO.mkRef false, debug⟩
  acceptClients shared server
  awaitClients shared ((← IO.monoMsNow) + grace)
  shared.closing.set true
  saveLast shared
  return 0

/-- The settings of the configuration file. -/
def settings (path : String) : IO (Except SettingsError Settings) := do
  let home := Directory.empty (Directory.segments (← IO.currentDir).toString)
  return Settings.load (← takeOver home path) path

/-- The values that the environment gives to switches. -/
def environment : IO (List (String × String)) :=
  (CommandLine.Switch.all.filterMap CommandLine.Switch.fromEnvironment?).filterMapM fun name => do
    return (← IO.getEnv name).map fun value => (name, value)

/-- Does what the words of the command line say. -/
def start (words : List String) : IO UInt32 := do
  let known ← environment
  match CommandLine.read (known.lookup ·) words with
  | .error fault =>
    IO.eprintln ("error: " ++ fault.message)
    return 2
  | .ok said =>
    if said.help then
      IO.print CommandLine.usage
      return 0
    if said.version then
      IO.println Node.release
      return 0
    match ← settings said.settingsFile with
    | .error fault =>
      IO.eprintln ("error: " ++ fault.message)
      return 1
    | .ok found => run (said.config found) said.debug

end ReplicatedStore.Program

/-- The program. -/
def main (words : List String) : IO UInt32 :=
  ReplicatedStore.Program.start words
