import ReplicatedStore.Node.Connection
import ReplicatedStore.Proofs.Node.Served
import ReplicatedStore.Proofs.Request.Stream

/-!
# What is said on a connection

What a client is told does not depend on how its octets are cut into pieces, but for what is read
off them: a node that takes the pieces one after the other says one thing for each thing that is
read (`receiveAll_eq`), until one of them ends the connection.

A request with a payload is answered once, unless a piece ends right behind its payload
(`answered_once`).  The line end after the payload is then read as a request that names no command,
and that is answered too (`answered_twice`, `said_answer_nameless`): a client that reads one reply
for every request it sends takes the second answer for the reply to its next request.
-/

namespace ReplicatedStore

open Request (decode decodeAll decodeChunks Writable CutAt lineLength wholeLength)

/-! ## What is read with which piece -/

/-- What is read off a stream, each with what the node meets when the piece arrives that completes
it. -/
def Request.readPieces (limit : Nat) (left : Bytes) :
    List (Surroundings × Bytes) → List (Surroundings × Arrival)
  | [] => []
  | (around, chunk) :: pieces =>
    let (arrivals, left) := decodeAll limit (left ++ chunk)
    let here := arrivals.map fun arrival => (around, arrival)
    if arrivals.any Arrival.isFatal then here else here ++ readPieces limit left pieces

namespace Request

lemma map_snd_readPieces (limit : Nat) (left : Bytes) (pieces : List (Surroundings × Bytes)) :
    (readPieces limit left pieces).map Prod.snd =
      (decodeChunks limit left (pieces.map Prod.snd)).1 := by
  induction pieces generalizing left with
  | nil => rfl
  | cons piece pieces ih =>
    obtain ⟨around, chunk⟩ := piece
    have hhere : ((decodeAll limit (left ++ chunk)).1.map fun arrival => (around, arrival)).map
        Prod.snd = (decodeAll limit (left ++ chunk)).1 := by
      simp [Function.comp_def]
    rw [readPieces, List.map_cons, decodeChunks]
    dsimp only
    split
    · exact hhere
    · rw [List.map_append, hhere, ih]

lemma fst_mem_readPieces {limit : Nat} {left : Bytes} {pieces : List (Surroundings × Bytes)}
    {read : Surroundings × Arrival} (h : read ∈ readPieces limit left pieces) :
    read.1 ∈ pieces.map Prod.fst := by
  induction pieces generalizing left with
  | nil => cases h
  | cons piece pieces ih =>
    obtain ⟨around, chunk⟩ := piece
    rw [readPieces] at h
    dsimp only at h
    split at h
    · obtain ⟨arrival, -, rfl⟩ := List.mem_map.mp h
      exact List.mem_cons_self
    · rcases List.mem_append.mp h with hhere | hlater
      · obtain ⟨arrival, -, rfl⟩ := List.mem_map.mp hhere
        exact List.mem_cons_self
      · exact List.mem_cons_of_mem _ (ih hlater)

end Request

/-- Does the connection end with what was said? -/
def Event.isLast (event : Event) : Bool :=
  match event.said with
  | .fatal _ => true
  | .reply _ => event.session.closing

namespace Node

/-! ## What is said to what is read -/

/-- The answer to a request. -/
def answer (n : Node) (around : Surroundings) (session : Session) (r : Request) : Event :=
  let (reply, after, session) := n.dispatch around session r
  ⟨some r, .reply reply, after, session⟩

/-- What is said to something that was read. -/
def say? (n : Node) (around : Surroundings) (session : Session) : Request.Arrival → Option Event
  | .incomplete => none
  | .request r => some (n.answer around session r)
  | .refused fault => some ⟨none, .reply (.error fault.message), n, session⟩
  | .tooLarge size limit => some ⟨none, .fatal (Request.tooLargeMessage size limit), n, session⟩

/-- What is said to all that was read, until the connection ends. -/
def sayAll (n : Node) (session : Session) : List (Surroundings × Request.Arrival) → List Event
  | [] => []
  | (around, arrival) :: arrivals =>
    match n.say? around session arrival with
    | none => n.sayAll session arrivals
    | some event =>
      event :: if event.isLast then [] else event.node.sayAll event.session arrivals

/-- Takes the pieces of a stream on a connection: all that is said, and what is left. -/
def receiveAll (n : Node) (c : Connection) :
    List (Surroundings × Bytes) → List Event × Node × Connection
  | [] => ([], n, c)
  | (around, chunk) :: pieces =>
    let (events, after, left) := n.receive around c chunk false
    let (later, last, rest) := after.receiveAll left pieces
    (events ++ later, last, rest)

lemma receiveAll_closed (n : Node) {c : Connection} (h : c.closed)
    (pieces : List (Surroundings × Bytes)) : n.receiveAll c pieces = ([], n, c) := by
  induction pieces with
  | nil => rfl
  | cons piece pieces ih => simp only [receiveAll, receive, h, if_true, ih, List.append_nil]

lemma config_say? {n : Node} {around : Surroundings} {session : Session}
    {arrival : Request.Arrival} {event : Event} (h : n.say? around session arrival = some event) :
    event.node.config = n.config := by
  cases arrival with
  | incomplete => cases h
  | request r =>
    cases h
    exact n.config_dispatch around session r
  | refused fault =>
    cases h
    rfl
  | tooLarge size limit =>
    cases h
    rfl

/-- With one piece at most one thing is read, and something is said to it. -/
lemma receive_eq (n : Node) (around : Surroundings) {c : Connection} (h : c.closed = false)
    (chunk : Bytes) :
    let arrival := decode n.config.maxRequestSize (c.arrived ++ chunk)
    let left := Request.left (c.arrived ++ chunk) arrival
    n.receive around c chunk false =
      match n.say? around c.session arrival with
      | none => ([], n, ⟨c.session, left, false⟩)
      | some event => ([event], event.node, ⟨event.session, left, event.isLast⟩) := by
  obtain ⟨session, arrived, closed⟩ := c
  obtain rfl : closed = false := h
  -- Nothing stays behind a request, so that the second round finds nothing.
  have hnothing : ∀ (after : Node) (session : Session), serveArrived around false 1 after
      ⟨session, [], false⟩ = ([], after, ⟨session, [], false⟩) := fun _ _ => rfl
  dsimp only
  rw [receive, if_neg Bool.false_ne_true, serveArrived]
  cases hread : decode n.config.maxRequestSize (arrived ++ chunk) with
  | incomplete => rfl
  | request r =>
    simp only [Request.left, say?, answer, Event.isLast, hnothing]
    cases (n.dispatch around session r).2.2.closing <;> rfl
  | refused fault =>
    simp only [Request.left, say?, Event.isLast, hnothing]
    cases session.closing <;> rfl
  | tooLarge size limit => rfl

/-- More octets than a request may have end the connection. -/
lemma isLast_of_isFatal {n : Node} {around : Surroundings} {session : Session}
    {arrival : Request.Arrival} {event : Event} (h : n.say? around session arrival = some event)
    (hfatal : arrival.isFatal) : event.isLast := by
  cases arrival with
  | tooLarge size limit =>
    cases h
    rfl
  | incomplete => cases hfatal
  | request r => cases hfatal
  | refused fault => cases hfatal

/-- **The octets that arrive count only through what is read off them.** -/
theorem receiveAll_eq (n : Node) {c : Connection} (h : c.closed = false)
    (pieces : List (Surroundings × Bytes)) :
    (n.receiveAll c pieces).1 =
      n.sayAll c.session (Request.readPieces n.config.maxRequestSize c.arrived pieces) := by
  induction pieces generalizing n c with
  | nil => rfl
  | cons piece pieces ih =>
    obtain ⟨around, chunk⟩ := piece
    rw [receiveAll, n.receive_eq around h chunk, Request.readPieces, decodeAll]
    dsimp only
    generalize decode n.config.maxRequestSize (c.arrived ++ chunk) = arrival
    cases hsay : n.say? around c.session arrival with
    | none =>
      obtain rfl : arrival = .incomplete := by
        cases arrival with
        | incomplete => rfl
        | _ => cases hsay
      exact ih n rfl
    | some event =>
      have hread : arrival ≠ .incomplete := by
        rintro rfl
        cases hsay
      dsimp only
      rw [if_neg hread]
      cases hlast : event.isLast with
      | true =>
        rw [receiveAll_closed _ rfl]
        split <;> simp [sayAll, hsay, hlast]
      | false =>
        have hfatal : arrival.isFatal = false := by
          cases hfatal : arrival.isFatal with
          | false => rfl
          | true => exact absurd (isLast_of_isFatal hsay hfatal) (by simp [hlast])
        have hlater := ih event.node (c := ⟨event.session,
          Request.left (c.arrived ++ chunk) arrival, false⟩) rfl
        rw [config_say? hsay] at hlater
        simp [sayAll, hsay, hlast, hfatal, hlater]

/-! ## A request with a payload -/

section Written

variable {n : Node} {c : Connection} {name : String} {args : List Bytes} {data : Bytes}
  {pieces : List (Surroundings × Bytes)}

/-- What is read of a request with a payload. -/
lemma map_snd_readPieces_payload {limit : Nat} (h : Writable limit name args (some data))
    (hpieces : (pieces.map Prod.snd).flatten = Request.encode (Bytes.ofText name) args (some data))
    (hcut : ¬ CutAt (pieces.map Prod.snd) (lineLength name args (some data))) :
    (Request.readPieces limit [] pieces).map Prod.snd =
      .request (Request.of name (args ++ [data])) ::
        if CutAt (pieces.map Prod.snd) (wholeLength name args (some data)) then
          [.request (Request.of "" [])]
        else [] := by
  rw [Request.map_snd_readPieces, Request.decodeChunks_payload h hpieces hcut]
  split
  · rfl
  · split <;> rfl

/-- **A request with a payload is answered once, unless a piece ends right behind the payload.**  It
is also the only thing that is read, with nothing left over, unless a piece ends there or in the
middle of the line end after the payload. -/
theorem answered_once (hopen : c.closed = false) (hfresh : c.arrived = [])
    (h : Writable n.config.maxRequestSize name args (some data))
    (hpieces : (pieces.map Prod.snd).flatten = Request.encode (Bytes.ofText name) args (some data))
    (hcut : ¬ CutAt (pieces.map Prod.snd) (lineLength name args (some data))) :
    (decodeChunks n.config.maxRequestSize [] (pieces.map Prod.snd) =
        ([.request (Request.of name (args ++ [data]))], []) ↔
      ¬ CutAt (pieces.map Prod.snd) (wholeLength name args (some data)) ∧
        ¬ CutAt (pieces.map Prod.snd) (wholeLength name args (some data) + 1)) ∧
    (¬ CutAt (pieces.map Prod.snd) (wholeLength name args (some data)) →
      ∃ around ∈ pieces.map Prod.fst, (n.receiveAll c pieces).1 =
        [n.answer around c.session (Request.of name (args ++ [data]))]) := by
  constructor
  · rw [Request.decodeChunks_payload h hpieces hcut]
    by_cases hpayload : CutAt (pieces.map Prod.snd) (wholeLength name args (some data))
    · simp [hpayload]
    · by_cases hreturn : CutAt (pieces.map Prod.snd) (wholeLength name args (some data) + 1)
      · simp [hpayload, hreturn]
      · simp [hpayload, hreturn]
  · intro hpayload
    have hread := map_snd_readPieces_payload h hpieces hcut
    rw [if_neg hpayload, List.map_eq_singleton_iff] at hread
    obtain ⟨⟨around, arrival⟩, hread, rfl⟩ := hread
    have haround : around ∈ pieces.map Prod.fst :=
      Request.fst_mem_readPieces (hread ▸ List.mem_singleton_self _)
    refine ⟨around, haround, ?_⟩
    rw [receiveAll_eq n hopen, hfresh, hread]
    simp [sayAll, say?]

/-- A change for a replica, cut inside the line end of its line. -/
theorem answered_once_replica :
    let n := Node.new { Config.default with authority := false } (Directory.empty []) 0
    let data := Bytes.ofText "abc"
    let pieces := ["DO 3\r", "\nabc\r\n"].map fun chunk => (Surroundings.alone, Bytes.ofText chunk)
    n.connect.closed = false ∧ n.connect.arrived = [] ∧
    Writable n.config.maxRequestSize "DO" [] (some data) ∧
    (pieces.map Prod.snd).flatten = Request.encode (Bytes.ofText "DO") [] (some data) ∧
    ¬ CutAt (pieces.map Prod.snd) (lineLength "DO" [] (some data)) ∧
    ¬ CutAt (pieces.map Prod.snd) (wholeLength "DO" [] (some data)) ∧
    decodeChunks n.config.maxRequestSize [] (pieces.map Prod.snd) =
      ([.request (Request.of "DO" [data])], []) ∧
    (n.receiveAll n.connect pieces).1 =
      [n.answer .alone n.newSession (Request.of "DO" [data])] := by
  intro n data pieces
  have hwritable : Writable n.config.maxRequestSize "DO" [] (some data) :=
    ⟨⟨by decide, by decide⟩, by simp, by decide, by decide, by decide⟩
  have hpieces : (pieces.map Prod.snd).flatten =
      Request.encode (Bytes.ofText "DO") [] (some data) := by decide
  have hcut : ¬ CutAt (pieces.map Prod.snd) (lineLength "DO" [] (some data)) := by decide
  have hpayload : ¬ CutAt (pieces.map Prod.snd) (wholeLength "DO" [] (some data)) := by decide
  have hreturn : ¬ CutAt (pieces.map Prod.snd) (wholeLength "DO" [] (some data) + 1) := by decide
  obtain ⟨hread, hanswered⟩ := answered_once rfl rfl hwritable hpieces hcut (c := n.connect)
  obtain ⟨around, haround, hevents⟩ := hanswered hpayload
  obtain rfl : around = .alone := by simpa [pieces] using haround
  exact ⟨rfl, rfl, hwritable, hpieces, hcut, hpayload, hread.mpr ⟨hpayload, hreturn⟩, hevents⟩

/-- The line end after a change comes late and makes another request. -/
theorem not_read_once_late :
    ¬ ∀ (limit : Nat) (name : String) (args : List Bytes) (data : Bytes) (chunks : List Bytes),
      Writable limit name args (some data) → data ≠ [] →
      chunks.flatten = Request.encode (Bytes.ofText name) args (some data) →
      ¬ CutAt chunks (lineLength name args (some data)) →
      decodeChunks limit [] chunks = ([.request (Request.of name (args ++ [data]))], []) := by
  intro hall
  let data := Bytes.ofText "abc"
  let chunks := ["DO 3\r\nabc", "\r\n"].map Bytes.ofText
  have hwritable : Writable 1048576 "DO" [] (some data) :=
    ⟨⟨by decide, by decide⟩, by simp, by decide, by decide, by decide⟩
  have hchunks : chunks.flatten = Request.encode (Bytes.ofText "DO") [] (some data) := by decide
  have hcut : ¬ CutAt chunks (lineLength "DO" [] (some data)) := by decide
  have hpayload : CutAt chunks (wholeLength "DO" [] (some data)) := by decide
  have honce := hall 1048576 "DO" [] data chunks hwritable (by decide) hchunks hcut
  rw [Request.decodeChunks_payload hwritable hchunks hcut, if_pos hpayload] at honce
  simp at honce

/-- **When a piece ends right behind the payload, two requests are answered**, unless the connection
ends with the first of them.  The second names no command. -/
theorem answered_twice (hopen : c.closed = false) (hfresh : c.arrived = [])
    (h : Writable n.config.maxRequestSize name args (some data))
    (hpieces : (pieces.map Prod.snd).flatten = Request.encode (Bytes.ofText name) args (some data))
    (hcut : ¬ CutAt (pieces.map Prod.snd) (lineLength name args (some data)))
    (hpayload : CutAt (pieces.map Prod.snd) (wholeLength name args (some data))) :
    ∃ around ∈ pieces.map Prod.fst, ∃ later ∈ pieces.map Prod.fst,
      let first := n.answer around c.session (Request.of name (args ++ [data]))
      (n.receiveAll c pieces).1 =
        first :: if first.isLast then [] else
          [first.node.answer later first.session (Request.of "" [])] := by
  have hread := map_snd_readPieces_payload h hpieces hcut
  rw [if_pos hpayload, List.map_eq_cons_iff] at hread
  obtain ⟨⟨around, arrival⟩, others, hread, rfl, hothers⟩ := hread
  obtain ⟨⟨later, another⟩, rfl, rfl⟩ := List.map_eq_singleton_iff.mp hothers
  have hmem : ∀ read ∈ Request.readPieces n.config.maxRequestSize [] pieces,
      read.1 ∈ pieces.map Prod.fst := fun read => Request.fst_mem_readPieces
  rw [hread] at hmem
  have haround : around ∈ pieces.map Prod.fst := hmem _ List.mem_cons_self
  have hlater : later ∈ pieces.map Prod.fst :=
    hmem _ (List.mem_cons_of_mem _ (List.mem_singleton_self _))
  refine ⟨around, haround, later, hlater, ?_⟩
  rw [receiveAll_eq n hopen, hfresh, hread]
  simp [sayAll, say?]

/-- Whoever may send commands is told that this is none. -/
lemma said_answer_nameless (n : Node) (around : Surroundings) {session : Session}
    (h : session.authenticated) :
    (n.answer around session (Request.of "" [])).said =
      .reply (.error "'' is an unknown command") := by
  have hverb : Verb.ofName? (Request.of "" []).name = none := by decide
  have hcheck : n.check session (Request.of "" []) = .error (.command (.unknownCommand "")) := by
    rw [check, hverb, h]
    rfl
  rw [answer, dispatch, hcheck]
  rfl

end Written

end Node

end ReplicatedStore
