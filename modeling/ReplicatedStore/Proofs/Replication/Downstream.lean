import ReplicatedStore.Proofs.Replication.Tracking
import ReplicatedStore.Proofs.Store.Restore

/-!
# A source that is itself resynchronised

A node with a replica may be given a snapshot in place of its whole store, which also sets its
version, backwards or forwards.  Its replica is told nothing of that: a snapshot is no change, and
the link stays.  What the replica is sent afterwards it takes or leaves by version alone.

A snapshot that moves the node forward does no lasting harm, because the next change leaves out a
version: the replica refuses it and loses its link, and when it is attached again it takes a new
copy.  So whenever nothing waits and the replica is linked, and the node has recorded something
since a snapshot moved it, the replica holds what the node holds, at its version
(`Downstream.in_sync`).  A snapshot that moves the node back, or changes what it holds at the same
version, does harm that is never found out: later changes are left out as if the replica had them,
until their versions go on from where the replica is (`not_in_sync_rewound`).
-/

namespace ReplicatedStore

open Store (Alike Leads Tracks Turns)

/-- The request that brings a replica its copy. -/
def copyRequest (version : Nat) (data : Bytes) : Request :=
  ⟨Verb.replaceAll.name, [Bytes.ofText (Decimal.ofNat version), data]⟩

/-- Does the reply say that all went well? -/
def Reply.isOk : Reply → Bool
  | .simple text => text == "OK"
  | _ => false

/-- A request of a node to its replica, and how it fares. -/
structure Contact where
  around : Surroundings
  session : Session
  /-- Does the request reach the replica? -/
  reached : Bool
  /-- Does the reply reach the node? -/
  answered : Bool

/-- Does the node learn that the request was carried out, and what becomes of the replica? -/
def Contact.ask (contact : Contact) (replica : Node) (r : Request) : Bool × Node :=
  if contact.reached then
    let served := replica.dispatch contact.around contact.session r
    (contact.answered && served.1.isOk, served.2.1)
  else (false, replica)

/-- A node and one of its replicas. -/
structure Downstream where
  /-- The node. -/
  source : Node
  /-- The replica, which is reached at an address of its own. -/
  replica : Node
  /-- The copy that is on its way, and where to. -/
  copying : Option (Address × Nat × Bytes)
  /-- The version that a snapshot moved the node to, if one did since the copy for the replica was
  taken.  This is only remembered. -/
  moved : Option Nat

namespace Downstream

/-- What happens to the node and its replica. -/
inductive Event where
  /-- The node serves a request. -/
  | serve (around : Surroundings) (session : Session) (r : Request)
  /-- A replica is to be attached. -/
  | startAttach (around : Surroundings) (target : Address)
  /-- The copy is brought to that replica; `takes` tells whether another one takes it. -/
  | finishAttach (contact : Contact) (takes : Bool)
  /-- The change that has waited longest is sent; `takes` tells which others take it. -/
  | deliver (contact : Contact) (takes : Address → Bool)

variable (address : Address) (x : Downstream)

/-- What comes of sending a change to the replica. -/
def send (contact : Contact) (c : Change) : Bool × Node :=
  match c.encode with
  | .error _ => (false, x.replica)
  | .ok envelope =>
    if ∃ l ∈ x.source.links, l.replica = address ∧ Node.Link.awaits l c then
      contact.ask x.replica (replayRequest envelope)
    else (false, x.replica)

/-- The node and its replica after an event. -/
def Event.run : Event → Downstream
  | .serve around session r =>
    { x with
      source := (x.source.dispatch around session r).2.1
      moved :=
        match x.source.replacement? session r with
        | some (version, _) => if version = x.source.store.revision then x.moved else some version
        | none => x.moved }
  | .startAttach around target =>
    if (x.source.link? target).isSome ∧ around.answers target then x
    else
      match (Coordination.unlinked x.source target).startAttach around with
      | (.error _, started) => { x with source := started.settleJournal }
      | (.ok (version, data), started) =>
        { x with
          source := started
          copying := some (target, version, data)
          moved := if target = address then none else x.moved }
  | .finishAttach contact takes =>
    match x.copying with
    | none => x
    | some (target, version, data) =>
      if target = address then
        let (taken, replica) := contact.ask x.replica (copyRequest version data)
        { x with source := x.source.finishAttach target version taken, replica, copying := none }
      else { x with source := x.source.finishAttach target version takes, copying := none }
  | .deliver contact takes =>
    match x.source.store.journal.pending with
    | [] => x
    | c :: _ =>
      let (taken, replica) := x.send address contact c
      let source := x.source.deliverNext fun target =>
        if target = address then taken else takes target
      { x with source, replica }

/-- The node has no key with a deadline, and its changes travel with their versions. -/
structure Plain : Prop where
  lasting : ∀ db key, x.source.store.deadline? db key = none
  bounded : x.source.store.revision < 2 ^ 63

/-- Replicas are attached one by one, and changes are not delivered meanwhile. -/
def Event.Fair : Event → Prop
  | .serve _ session r => x.source.attachTarget? session r = none
  | .startAttach _ _ => x.copying = none
  | .finishAttach _ _ => True
  | .deliver _ _ => x.copying = none

instance (e : Event) : Decidable (e.Fair x) :=
  match e with
  | .serve _ session r => inferInstanceAs (Decidable (x.source.attachTarget? session r = none))
  | .startAttach _ _ => inferInstanceAs (Decidable (x.copying = none))
  | .finishAttach _ _ => isTrue trivial
  | .deliver _ _ => inferInstanceAs (Decidable (x.copying = none))

/-- The replica is linked, or its copy is on its way, or changes wait. -/
def Engaged : Prop :=
  (∃ l ∈ x.source.links, l.replica = address) ∨
    (∃ version data, x.copying = some (address, version, data)) ∨
    x.source.store.journal.pending ≠ []

/-- A snapshot that the node takes while it is engaged with the replica moves it forward, or changes
nothing. -/
def Event.Forward : Event → Prop
  | .serve around session r =>
    x.Engaged address → ∀ version snapshot,
      x.source.replacement? session r = some (version, snapshot) →
        x.source.store.revision < version ∨
          (version = x.source.store.revision ∧ ∀ db key,
            (x.source.dispatch around session r).2.1.store.value? db key =
              x.source.store.value? db key)
  | _ => True

/-- The node and its replica after events. -/
def after (events : List Event) : Downstream :=
  events.foldl (fun x e => e.run address x) x

/-- Every event is fair, and leaves the node plain. -/
def FairRun (x : Downstream) : List Event → Prop
  | [] => True
  | e :: rest => e.Fair x ∧ (e.run address x).Plain ∧ FairRun (e.run address x) rest

/-- Every snapshot that matters moves the node forward, or changes nothing. -/
def ForwardRun (x : Downstream) : List Event → Prop
  | [] => True
  | e :: rest => e.Forward address x ∧ ForwardRun (e.run address x) rest

/-- A plain node that has no replicas yet, and does not record. -/
structure Fresh : Prop where
  links : x.source.links = []
  journal : x.source.store.journal = ⟨false, []⟩
  copying : x.copying = none
  plain : x.Plain

/-- Nothing waits, and the replica is linked. -/
structure Drained : Prop where
  waiting : x.source.store.journal.pending = []
  linked : ∃ l ∈ x.source.links, l.replica = address

/-- The replica is where the node is. -/
structure InSync : Prop where
  revision : x.replica.store.revision = x.source.store.revision
  contents : ∀ db key, x.replica.store.value? db key = x.source.store.value? db key

end Downstream

/-! ## What the replica does -/

namespace Node

variable {n : Node} (around : Surroundings) {session : Session}

lemma authenticated_of_isOk {r : Request} (hauth : r.name ≠ Verb.auth.name)
    (h : (n.dispatch around session r).1.isOk) : session.authenticated := by
  cases hcheck : n.check session r with
  | ok _ => exact authenticated_of_check hcheck hauth
  | error refusal =>
    unfold dispatch at h
    rw [hcheck] at h
    cases h

/-- The request that brings a copy is read as it was written. -/
lemma ofRequest_copyRequest {version : Nat} (h : version < 2 ^ 64) (data : Bytes) :
    Command.ofRequest (copyRequest version data) = .ok (.replaceAll version data) := by
  have hread : Decimal.read? Decimal.unsigned64 (Bytes.ofText (Decimal.ofNat version)) =
      some (version : Int) := by
    have hlimit : version ≤ Decimal.unsigned64.above := Nat.le_of_lt_succ h
    rw [Decimal.read?, Decimal.read_ofNat hlimit]
    rfl
  have hversion : Command.Finds Command.nextVersion
      [Bytes.ofText (Decimal.ofNat version), data] version [data] := by
    refine (Command.finds_nextText _ _).bind ?_
    unfold Command.Finds
    rw [hread]
    rfl
  have hcommand : Command.Finds (Command.readArguments .replaceAll) (copyRequest version data).args
      (.replaceAll version data) [] := hversion.bind ((Command.finds_nextData data []).map _)
  unfold Command.ofRequest copyRequest
  rw [Verb.ofName?_name]
  exact hcommand.ofArguments

/-- A copy takes the place of the store of the replica. -/
lemma dispatch_copy (hauthenticated : session.authenticated) {version : Nat}
    (hversion : version < 2 ^ 64) (data : Bytes) :
    (n.dispatch around session (copyRequest version data)).2.1.store =
      (n.store.recordOperation.replace around.now around.wall version data).2 := by
  have hcheck : n.check session (copyRequest version data) = .ok () := by
    unfold check
    rw [hauthenticated]
    rfl
  unfold dispatch
  rw [hcheck]
  unfold execute
  rw [ofRequest_copyRequest hversion]
  dsimp only
  rw [store_saveIfDue]
  simp only [run, runOwn, replaceAll, store_withStore]
  cases hreplace : n.store.recordOperation.replace around.now around.wall version data with
  | mk result left => cases result <;> rfl

/-- A notice is carried out, and changes nothing that replicas share. -/
lemma untouched_replayChange {c : Change} (h : c.IsNotice) :
    n.store.Untouched (n.replayChange around c).store := by
  have hruns : ∀ v : Verb, v.isReplayable → ∀ command : Command, command.IsPassive →
      Command.ofArguments v [] = .ok command → c.command = v.name →
        n.store.Untouched (n.replayChange around c).store := by
    intro v hreplayable command hpassive hcommand hname
    have hread : Command.ofRequest (Request.of c.command c.args) = .ok command := by
      rw [hname, h.bare, Command.ofRequest, v.ofName?_request]
      exact hcommand
    have hruns : isReplayable c.command := isReplayable_iff.mpr ⟨v, hname, hreplayable⟩
    rw [n.replayChange_eq_runOwn around hruns hread]
    exact n.untouched_runOwn around (Session.replay c.db) hpassive
  rcases List.mem_cons.mp h.named with hsave | hothers
  · exact hruns .save rfl .save trivial rfl hsave
  rcases List.mem_cons.mp hothers with hsaveLater | hlast
  · exact hruns .saveLater rfl .saveLater trivial rfl hsaveLater
  · exact hruns .shutdown rfl .shutdown trivial rfl (List.mem_singleton.mp hlast)

end Node

namespace Contact

variable {contact : Contact} {replica : Node} {r : Request}

/-- What the node learns to be carried out was. -/
lemma ask_taken (h : (contact.ask replica r).1) :
    (replica.dispatch contact.around contact.session r).1.isOk ∧
      (contact.ask replica r).2 = (replica.dispatch contact.around contact.session r).2.1 := by
  unfold ask at h ⊢
  split at h
  · rename_i hreached
    rw [if_pos hreached]
    exact ⟨(Bool.and_eq_true _ _ ▸ h).2, rfl⟩
  · cases h

end Contact

namespace Downstream

/-! ## What holds between any two events -/

/-- The encoded data puts a store like `base` in the place of any other. -/
structure Copies (base : Store) (version : Nat) (data : Bytes) : Prop where
  version_eq : base.revision = version
  bounded : version < 2 ^ 63
  replaces : ∀ (t : Store) (now wall : Nat), ∃ copy,
    t.replace now wall version data = (.ok (), copy) ∧ copy.revision = base.revision ∧
      Alike base copy

/-- What waits on the node is known, and a replica that is linked, or a copy on its way to it, has
what it needs among that or is cut off by a gap. -/
structure Following (address : Address) (x : Downstream) : Prop where
  waiting_le : ∀ c ∈ x.source.store.journal.pending, ∀ v, c.version = some v →
    v ≤ x.source.store.revision
  notices : ∀ c ∈ x.source.store.journal.pending, c.version = none → c.IsNotice
  recording : x.source.links ≠ [] ∨ x.copying ≠ none → x.source.store.journal.recording
  /-- The replica has no link while its copy is on the way. -/
  apart : ∀ version data, x.copying = some (address, version, data) →
    ∀ l ∈ x.source.links, l.replica ≠ address
  linked : ∀ l ∈ x.source.links, l.replica = address →
    l.version = x.replica.store.revision ∧ Tracks x.source.store x.moved x.replica.store
  copied : ∀ version data, x.copying = some (address, version, data) →
    ∃ base, Copies base version data ∧ Tracks x.source.store x.moved base

variable {address : Address} {x : Downstream}

lemma Fresh.following (h : x.Fresh) : x.Following address := by
  constructor
  · rw [h.journal]
    intro c hc
    cases hc
  · rw [h.journal]
    intro c hc
    cases hc
  · rintro (hlinks | hcopying)
    · exact absurd h.links hlinks
    · exact absurd h.copying hcopying
  · rw [h.links]
    intro version data hcopying l hl
    cases hl
  · rw [h.links]
    intro l hl
    cases hl
  · rw [h.copying]
    intro version data hcopying
    cases hcopying

/-- What a node without deadlines holds is copied as it is. -/
lemma copies_of_dump {s : Store} {now wall version : Nat} {data : Bytes}
    (hlasting : ∀ db key, s.deadline? db key = none) (hbounded : s.revision < 2 ^ 63)
    (hdump : s.dump now wall = .ok (version, data)) : Copies s version data := by
  have hversion : s.revision = version := by
    obtain ⟨encoded, -, hpair⟩ := Layout.bind_eq_ok hdump
    exact congrArg Prod.fst (Except.ok.inj hpair)
  refine ⟨hversion, hversion ▸ hbounded, fun t later wallLater => ?_⟩
  have hfits : ∀ db key deadline, s.deadline? db key = some deadline →
      Store.wallTime now wall deadline < 256 ^ 8 := by
    intro db key deadline hdeadline
    rw [hlasting] at hdeadline
    cases hdeadline
  obtain ⟨copy, hreplace, hlevel, -, -, hcontents⟩ :=
    Store.replace_dump hdump hfits t later wallLater
  refine ⟨copy, hreplace, hlevel, fun db key => ?_⟩
  obtain ⟨hvalue, hdeadline⟩ := hcontents db key
  rw [hvalue, hdeadline, hlasting]
  simp

/-! ### Serving -/

/-- The node changes by itself, and keeps for every copy what the copy needs. -/
lemma Following.alone (h : x.Following address) {n : Node} {moved : Option Nat}
    (hlinks : n.links = x.source.links)
    (hrecording : n.store.journal.recording = x.source.store.journal.recording)
    (hwaiting : ∀ c ∈ n.store.journal.pending, ∀ v, c.version = some v → v ≤ n.store.revision)
    (hnotices : ∀ c ∈ n.store.journal.pending, c.version = none → c.IsNotice)
    (htracks : x.Engaged address → x.source.store.journal.recording →
      ∀ base, Tracks x.source.store x.moved base → Tracks n.store moved base) :
    Following address { x with source := n, moved } := by
  refine ⟨hwaiting, hnotices, fun hengaged => ?_, fun version data hcopying l hl => ?_,
    fun l hl hreplica => ?_, fun version data hcopying => ?_⟩
  · show n.store.journal.recording = true
    rw [hrecording]
    exact h.recording (by rwa [← hlinks])
  · exact h.apart version data hcopying l (hlinks ▸ hl)
  · have hl : l ∈ x.source.links := hlinks ▸ hl
    obtain ⟨hversion, hbefore⟩ := h.linked l hl hreplica
    have hrecords := h.recording (.inl (List.ne_nil_of_mem hl))
    exact ⟨hversion, htracks (.inl ⟨l, hl, hreplica⟩) hrecords _ hbefore⟩
  · obtain ⟨base, hcopies, hbefore⟩ := h.copied version data hcopying
    have hrecords := h.recording (.inr (by rw [hcopying]; simp))
    exact ⟨base, hcopies, htracks (.inr (.inl ⟨version, data, hcopying⟩)) hrecords base hbefore⟩

/-- A turn of the node while nothing else happens. -/
lemma Following.turns (h : x.Following address) {n : Node} (hlinks : n.links = x.source.links)
    (hturns : Turns x.source.store n.store) : Following address { x with source := n } := by
  obtain ⟨changes, hturn, hcommits⟩ := hturns
  have hmem : ∀ c ∈ n.store.journal.pending,
      c ∈ x.source.store.journal.pending ∨ c ∈ changes := by
    intro c hc
    rw [hcommits.pending, List.mem_append] at hc
    refine hc.imp_right fun hrecorded => ?_
    split at hrecorded
    · exact hrecorded
    · cases hrecorded
  refine h.alone hlinks hcommits.recording (fun c hc v hv => ?_) (fun c hc hnone => ?_)
    fun _ hrecording base htracks => htracks.turns hrecording ⟨changes, hturn, hcommits⟩
  · rcases hmem c hc with hold | hnew
    · exact Nat.le_trans (h.waiting_le c hold v hv) hcommits.revision_le
    · rcases hturn.told c hnew with hnotice | hversion
      · rw [hnotice.unversioned] at hv
        cases hv
      · rw [hversion] at hv
        exact Nat.le_of_eq (Option.some.inj hv).symm
  · rcases hmem c hc with hold | hnew
    · exact h.notices c hold hnone
    · rcases hturn.told c hnew with hnotice | hversion
      · exact hnotice
      · rw [hversion] at hnone
        cases hnone

/-- A snapshot in place of the store of the node. -/
lemma Following.replaced (h : x.Following address) {n : Node} {moved : Option Nat}
    (hlinks : n.links = x.source.links) (hjournal : n.store.journal = x.source.store.journal)
    (hforward : x.Engaged address →
      (x.source.store.revision < n.store.revision ∧ moved = some n.store.revision) ∨
        (n.store.revision = x.source.store.revision ∧ Alike x.source.store n.store ∧
          moved = x.moved)) :
    Following address { x with source := n, moved } := by
  have hpending : n.store.journal.pending = x.source.store.journal.pending := by rw [hjournal]
  refine h.alone hlinks (by rw [hjournal]) (fun c hc v hv => ?_) (fun c hc hnone => ?_)
    fun hengaged _ base htracks => ?_
  · rw [hpending] at hc
    have hle := h.waiting_le c hc v hv
    rcases hforward (.inr (.inr (List.ne_nil_of_mem hc))) with ⟨hlt, -⟩ | ⟨hversion, -⟩
    · omega
    · omega
  · exact h.notices c (hpending ▸ hc) hnone
  · rcases hforward hengaged with ⟨hlt, rfl⟩ | ⟨hversion, halike, rfl⟩
    · exact htracks.jump hpending hlt
    · exact htracks.congr halike hversion (by rw [hpending])

lemma Following.serve (h : x.Following address) (hplain : x.Plain) {around : Surroundings}
    {session : Session} {r : Request} (hfair : (Event.serve around session r).Fair x)
    (hforward : (Event.serve around session r).Forward address x)
    (hafter : ((Event.serve around session r).run address x).Plain) :
    ((Event.serve around session r).run address x).Following address := by
  have hlinks := x.source.links_dispatch around session r hfair
  cases hreplace : x.source.replacement? session r with
  | none =>
    have hturns := x.source.dispatch_turns around session r hfair hreplace
    have hrun : (Event.serve around session r).run address x =
        { x with source := (x.source.dispatch around session r).2.1 } := by
      rw [Event.run, hreplace]
    rw [hrun]
    exact h.turns hlinks hturns
  | some found =>
    obtain ⟨version, snapshot⟩ := found
    have hstore := x.source.dispatch_replacement around session hreplace
    have hcounters := x.source.store.recordOperation.sameCounters_restore around.now around.wall
      snapshot
    have hversion : (x.source.dispatch around session r).2.1.store.revision = version := by
      rw [hstore]
    have hjournal : (x.source.dispatch around session r).2.1.store.journal =
        x.source.store.journal := by
      rw [hstore]
      exact hcounters.journal
    have hlasting : ∀ db key,
        (x.source.dispatch around session r).2.1.store.deadline? db key = none := hafter.lasting
    rw [Event.run, hreplace]
    refine h.replaced hlinks hjournal fun hengaged => ?_
    rcases hforward hengaged version snapshot hreplace with hlt | ⟨hsame, hcontents⟩
    · have hmoved : version ≠ x.source.store.revision := by omega
      rw [hversion]
      exact .inl ⟨hlt, if_neg hmoved⟩
    · refine .inr ⟨by rw [hversion, hsame], fun db key => ⟨hcontents db key, ?_⟩, if_pos hsame⟩
      rw [hlasting, hplain.lasting]

/-! ### Attaching -/

/-- Nothing changes but links, and whether the node records. -/
lemma Following.relinked (h : x.Following address) {n : Node} {replica : Node}
    {copying : Option (Address × Nat × Bytes)} {moved : Option Nat} (recording : Bool)
    (hstore : n.store = x.source.store.setRecording recording)
    (hrecording : n.links ≠ [] ∨ copying ≠ none → recording)
    (happart : ∀ version data, copying = some (address, version, data) →
      ∀ l ∈ n.links, l.replica ≠ address)
    (hlinked : ∀ l ∈ n.links, l.replica = address →
      l.version = replica.store.revision ∧ Tracks x.source.store moved replica.store)
    (hcopied : ∀ version data, copying = some (address, version, data) →
      ∃ base, Copies base version data ∧ Tracks x.source.store moved base) :
    Following address ⟨n, replica, copying, moved⟩ := by
  have htracks : ∀ base, Tracks x.source.store moved base → Tracks n.store moved base := by
    intro base htracks
    rw [hstore]
    exact htracks.congr (.refl _) rfl rfl
  constructor
  · show ∀ c ∈ n.store.journal.pending, _
    rw [hstore]
    exact h.waiting_le
  · show ∀ c ∈ n.store.journal.pending, _
    rw [hstore]
    exact h.notices
  · intro hengaged
    show n.store.journal.recording = true
    rw [hstore]
    exact hrecording hengaged
  · exact happart
  · intro l hl hreplica
    obtain ⟨hversion, hbefore⟩ := hlinked l hl hreplica
    exact ⟨hversion, htracks _ hbefore⟩
  · intro version data hcopying
    obtain ⟨base, hcopies, hbefore⟩ := hcopied version data hcopying
    exact ⟨base, hcopies, htracks base hbefore⟩

/-- The journal records as before, or not at all when there is no link. -/
lemma store_settleJournal (n : Node) : n.settleJournal.store =
    n.store.setRecording (n.store.journal.recording && !n.links.isEmpty) := by
  unfold Node.settleJournal
  cases hlinks : n.links with
  | nil => simp [Node.withStore]
  | cons l rest => simp [Store.setRecording]

lemma Following.startAttach (h : x.Following address) (hplain : x.Plain) {around : Surroundings}
    {target : Address} (hfair : (Event.startAttach around target).Fair x) :
    ((Event.startAttach around target).run address x).Following address := by
  have hidle : x.copying = none := hfair
  unfold Event.run
  dsimp only
  split
  · exact h
  have hunlinked : ∀ l ∈ (Coordination.unlinked x.source target).links,
      l ∈ x.source.links ∧ l.replica ≠ target := fun l hl => Coordination.mem_unlinked.mp hl
  rcases hstart : (Coordination.unlinked x.source target).startAttach around with
    ⟨fault | ⟨version, data⟩, started⟩
  · -- The copy cannot be encoded: recording is on only if other links are left.
    have hstarted : started =
        (Coordination.unlinked x.source target).withStore (x.source.store.setRecording true) :=
      (congrArg Prod.snd hstart).symm
    refine h.relinked (!started.links.isEmpty) ?_ ?_ ?_ ?_ ?_
    · rw [store_settleJournal, hstarted]
      rfl
    · rintro (hlinks | hcopying)
      · simpa using hlinks
      · exact absurd hidle hcopying
    · intro version data hcopying
      rw [hidle] at hcopying
      cases hcopying
    · intro l hl hreplica
      rw [Coordination.links_settleJournal, hstarted] at hl
      exact h.linked l (hunlinked l hl).1 hreplica
    · intro version data hcopying
      rw [hidle] at hcopying
      cases hcopying
  · have hdump : (x.source.store.setRecording true).dump around.now around.wall =
        .ok (version, data) := congrArg Prod.fst hstart
    have hstarted : started =
        (Coordination.unlinked x.source target).withStore (x.source.store.setRecording true) :=
      (congrArg Prod.snd hstart).symm
    have hcopies : Copies x.source.store version data :=
      copies_of_dump hplain.lasting hplain.bounded hdump
    refine h.relinked true ?_ ?_ ?_ ?_ ?_
    · rw [hstarted]
      rfl
    · exact fun _ => rfl
    · intro version' data' hcopying l hl
      rw [hstarted] at hl
      obtain ⟨rfl, -⟩ : target = address ∧ _ := by simpa using hcopying
      exact (hunlinked l hl).2
    · intro l hl hreplica
      rw [hstarted] at hl
      obtain ⟨hold, hother⟩ := hunlinked l hl
      have htarget : target ≠ address := by
        rintro rfl
        exact hother hreplica
      rw [if_neg htarget]
      exact h.linked l hold hreplica
    · intro version' data' hcopying
      obtain ⟨rfl, rfl, rfl⟩ : target = address ∧ version = version' ∧ data = data' := by
        simpa using hcopying
      exact ⟨_, hcopies, .current _ h.waiting_le⟩

lemma mem_links_finishAttach {n : Node} {target : Address} {version : Nat} {taken : Bool} {l : Link}
    (h : l ∈ (n.finishAttach target version taken).links) :
    l ∈ n.links ∨ (taken ∧ l = ⟨target, version⟩) := by
  unfold Node.finishAttach at h
  rw [Coordination.links_settleJournal] at h
  split at h
  · rename_i htaken
    rcases List.mem_append.mp h with hold | hnew
    · exact .inl hold
    · exact .inr ⟨htaken, List.mem_singleton.mp hnew⟩
  · exact .inl h

lemma store_finishAttach (n : Node) (target : Address) (version : Nat) (taken : Bool) :
    (n.finishAttach target version taken).store = n.store.setRecording
      (n.store.journal.recording && !(n.finishAttach target version taken).links.isEmpty) := by
  unfold Node.finishAttach
  rw [store_settleJournal, Coordination.links_settleJournal]
  split <;> rfl

/-- A replica that took its copy is where the node was when the copy was taken. -/
lemma tracks_copied {s base : Store} {moved : Option Nat} {version : Nat} {data : Bytes}
    (hcopies : Copies base version data) (htracks : Tracks s moved base) {contact : Contact}
    {replica : Node} (htaken : (contact.ask replica (copyRequest version data)).1) :
    (contact.ask replica (copyRequest version data)).2.store.revision = version ∧
      Tracks s moved (contact.ask replica (copyRequest version data)).2.store := by
  obtain ⟨hok, hreplica⟩ := Contact.ask_taken htaken
  have hname : Verb.replaceAll.name ≠ Verb.auth.name := by decide
  have hauthenticated := Node.authenticated_of_isOk contact.around hname hok
  have hbounded : version < 2 ^ 64 := Nat.lt_trans hcopies.bounded (by decide)
  have hstore := Node.dispatch_copy (n := replica) contact.around hauthenticated hbounded data
  obtain ⟨copy, hreplace, hversion, halike⟩ :=
    hcopies.replaces replica.store.recordOperation contact.around.now contact.around.wall
  rw [hreplica, hstore, hreplace]
  exact ⟨hversion.trans hcopies.version_eq, htracks.of_alike halike hversion⟩

lemma Following.finishAttach (h : x.Following address) (contact : Contact) (takes : Bool) :
    ((Event.finishAttach contact takes).run address x).Following address := by
  unfold Event.run
  cases hcopying : x.copying with
  | none => exact h
  | some found =>
    obtain ⟨target, version, data⟩ := found
    have hrecording : x.source.store.journal.recording = true :=
      h.recording (.inr (by rw [hcopying]; simp))
    have hidle : ∀ taken, (x.source.finishAttach target version taken).links ≠ [] ∨
        (none : Option (Address × Nat × Bytes)) ≠ none →
        (x.source.store.journal.recording &&
          !(x.source.finishAttach target version taken).links.isEmpty) = true := by
      rintro taken (hlinks | hnone)
      · simpa [hrecording] using hlinks
      · exact absurd rfl hnone
    dsimp only
    by_cases htarget : target = address
    · rw [if_pos htarget]
      subst htarget
      obtain ⟨base, hcopies, htracks⟩ := h.copied version data hcopying
      refine h.relinked _ (store_finishAttach _ _ _ _) (hidle _) (by simp) ?_ (by simp)
      intro l hl hreplica
      rcases mem_links_finishAttach hl with hold | ⟨htaken, rfl⟩
      · exact absurd hreplica (h.apart version data hcopying l hold)
      · obtain ⟨hversion, hafter⟩ := tracks_copied hcopies htracks htaken
        exact ⟨hversion.symm, hafter⟩
    · rw [if_neg htarget]
      refine h.relinked _ (store_finishAttach _ _ _ _) (hidle _) (by simp) ?_ (by simp)
      intro l hl hreplica
      rcases mem_links_finishAttach hl with hold | ⟨-, rfl⟩
      · exact h.linked l hold hreplica
      · exact absurd hreplica htarget

/-! ### Delivering -/

/-- A change that the replica took made it what it was to become. -/
lemma tracks_delivered {s t : Store} {moved : Option Nat} {c : Change} {rest : List Change}
    {envelope : Bytes} {replica : Node} {contact : Contact}
    (htracks : Tracks s moved replica.store) (hpending : s.journal.pending = c :: rest)
    (halike : Alike s t) (hversion : t.revision = s.revision) (hrest : t.journal.pending = rest)
    (hawaited : ∀ v, c.version = some v → replica.store.revision < v)
    (hnotice : c.version = none → c.IsNotice) (hplain : c.HasPlainVersion)
    (hencode : c.encode = .ok envelope)
    (htaken : (contact.ask replica (replayRequest envelope)).1) :
    (contact.ask replica (replayRequest envelope)).2.store.revision =
        c.version.getD replica.store.revision ∧
      Tracks t moved (contact.ask replica (replayRequest envelope)).2.store := by
  obtain ⟨hok, hreplica⟩ := Contact.ask_taken htaken
  have hname : Verb.replay.name ≠ Verb.auth.name := by decide
  have hauthenticated := Node.authenticated_of_isOk contact.around hname hok
  rw [hreplica]
  cases hnumber : c.version with
  | none =>
    have hcheck : replica.checkVersion c = .ok () := by
      unfold Node.checkVersion
      rw [hnumber]
    obtain ⟨-, hstore⟩ :=
      Node.delivered_run contact.around hplain hencode hauthenticated hcheck
    have huntouched := Node.untouched_replayChange (n := replica.withStore
      replica.store.recordOperation) contact.around (hnotice hnumber)
    rw [hstore]
    have hskip : Tracks t moved replica.store :=
      htracks.skip hpending (by simp [Change.isAbove, hnumber]) halike hversion hrest
    have hlike : Alike replica.store replica.store.recordOperation := .refl _
    exact ⟨huntouched.revision, hskip.of_alike (hlike.trans (.of_same huntouched.contents))
      huntouched.revision⟩
  | some v =>
    have hlt := hawaited v hnumber
    have hneeded : Change.isAbove replica.store.revision c := by simp [Change.isAbove, hnumber, hlt]
    rcases htracks.advance hpending hneeded halike hversion hrest with
      ⟨u, hleads, hafter⟩ | ⟨v', hnumber', hgap⟩
    · obtain ⟨-, hlike, hlevel, -, -⟩ := Node.delivered_leads contact.around hleads (.refl _) rfl
        hplain hencode hauthenticated
      have hraised : v = u.revision := by
        rw [hleads.version_eq.1]
        exact Option.some.inj (hnumber.symm.trans hleads.version_eq.2)
      exact ⟨hlevel.trans hraised.symm, hafter.of_alike hlike hlevel⟩
    · obtain rfl : v = v' := Option.some.inj (hnumber.symm.trans hnumber')
      have hstale := (Node.delivered_stale contact.around hplain hencode hauthenticated hnumber
        (by omega : v ≠ replica.store.revision + 1)).1
      rw [hstale] at hok
      cases hok

/-- What delivering the change that has waited longest leaves of the node. -/
lemma deliverNext_leaves {n : Node} {c : Change} {rest : List Change}
    (h : n.store.journal.pending = c :: rest) (takes : Address → Bool) :
    Alike n.store (n.deliverNext takes).store ∧
      (n.deliverNext takes).store.revision = n.store.revision ∧
      (n.deliverNext takes).store.journal.pending = rest ∧
      ((n.deliverNext takes).links ≠ [] → n.store.journal.recording →
        (n.deliverNext takes).store.journal.recording) ∧
      ∀ l ∈ (n.deliverNext takes).links, ∃ envelope, c.encode = .ok envelope ∧ ∃ k ∈ n.links,
        (Node.Link.awaits k c = false ∧ l = k) ∨
          (Node.Link.awaits k c = true ∧ takes k.replica ∧ l = Node.Link.advance k c) := by
  let shorter : Node := n.withStore
    { n.store with journal := { n.store.journal with pending := rest } }
  have hnext : n.deliverNext takes = shorter.deliver c takes := by
    unfold Node.deliverNext
    rw [h]
  have hstore : (shorter.deliver c takes).store = shorter.store.setRecording
      (n.store.journal.recording && !(shorter.deliver c takes).links.isEmpty) := by
    unfold Node.deliver
    rw [store_settleJournal, Coordination.links_settleJournal]
    rfl
  have halike : Alike n.store shorter.store := .refl n.store
  rw [hnext]
  refine ⟨?_, ?_, ?_, fun hlinks hrecording => ?_,
    fun l hl => Coordination.sent_of_mem_deliver (n := shorter) hl⟩
  · rw [hstore]
    exact halike
  · rw [hstore]
    rfl
  · rw [hstore]
    rfl
  · have hsome : (shorter.deliver c takes).links.isEmpty = false := by simpa using hlinks
    rw [hstore, hsome, hrecording]
    rfl

/-- A link to the replica that is left after a delivery is at the version of the replica. -/
lemma Following.delivered (h : x.Following address) (hplain : x.Plain) {contact : Contact}
    {c : Change} {rest : List Change} {t : Store} {l k : Link}
    {envelope : Bytes} (hpending : x.source.store.journal.pending = c :: rest)
    (hencode : c.encode = .ok envelope) (halike : Alike x.source.store t)
    (hversion : t.revision = x.source.store.revision) (hrest : t.journal.pending = rest)
    (hk : k ∈ x.source.links) (hreplica : k.replica = address)
    (hkept : (Node.Link.awaits k c = false ∧ l = k) ∨
      (Node.Link.awaits k c = true ∧ (x.send address contact c).1 ∧ l = Node.Link.advance k c)) :
    l.version = (x.send address contact c).2.store.revision ∧
      Tracks t x.moved (x.send address contact c).2.store := by
  obtain ⟨hlevel, htracks⟩ := h.linked k hk hreplica
  have hc : c ∈ x.source.store.journal.pending := by
    rw [hpending]
    exact List.mem_cons_self
  rcases hkept with ⟨hpassed, rfl⟩ | ⟨hawaits, htaken, rfl⟩
  · -- All links to the replica are at its version, so that none awaits the change.
    have hnone : ¬ ∃ l ∈ x.source.links, l.replica = address ∧ Node.Link.awaits l c := by
      rintro ⟨m, hm, hsame, hawaits⟩
      have hlevel' := (h.linked m hm hsame).1
      have hequal : m = l := by
        cases m
        cases l
        simp_all
      rw [hequal, hpassed] at hawaits
      cases hawaits
    have hsend : x.send address contact c = (false, x.replica) := by
      unfold send
      rw [hencode]
      exact if_neg hnone
    rw [hsend]
    refine ⟨hlevel, htracks.skip hpending ?_ halike hversion hrest⟩
    rw [← hlevel]
    unfold Node.Link.awaits at hpassed
    cases hnumber : c.version with
    | none =>
      rw [hnumber] at hpassed
      cases hpassed
    | some v =>
      rw [hnumber] at hpassed
      simpa [Change.isAbove, hnumber] using hpassed
  · have hsend : x.send address contact c = contact.ask x.replica (replayRequest envelope) := by
      unfold send
      rw [hencode]
      exact if_pos ⟨k, hk, hreplica, hawaits⟩
    rw [hsend] at htaken ⊢
    have hawaited : ∀ v, c.version = some v → x.replica.store.revision < v := by
      intro v hnumber
      unfold Node.Link.awaits at hawaits
      rw [hnumber, hlevel] at hawaits
      exact of_decide_eq_true hawaits
    have hplainVersion : c.HasPlainVersion := by
      intro v hv
      exact Nat.lt_of_le_of_lt (h.waiting_le c hc v hv) hplain.bounded
    obtain ⟨hreached, hafter⟩ := tracks_delivered htracks hpending halike hversion hrest hawaited
      (h.notices c hc) hplainVersion hencode htaken
    refine ⟨?_, hafter⟩
    rw [hreached, ← hlevel]
    rfl

lemma Following.deliver (h : x.Following address) (hplain : x.Plain) {contact : Contact}
    {takes : Address → Bool} (hfair : (Event.deliver contact takes).Fair x) :
    ((Event.deliver contact takes).run address x).Following address := by
  have hidle : x.copying = none := hfair
  have hnotCopying : ∀ {found}, x.copying ≠ some found := by simp [hidle]
  unfold Event.run
  cases hpending : x.source.store.journal.pending with
  | nil => exact h
  | cons c rest =>
    dsimp only
    generalize htook : (fun target => if target = address then (x.send address contact c).1
      else takes target) = took
    have hmem : ∀ d ∈ rest, d ∈ x.source.store.journal.pending := by
      intro d hd
      rw [hpending]
      exact List.mem_cons_of_mem c hd
    obtain ⟨halike, hversion, hrest, hrecording, hlinks⟩ := deliverNext_leaves hpending took
    generalize x.source.deliverNext took = after at *
    constructor
    · intro d hd v hv
      rw [hrest] at hd
      rw [hversion]
      exact h.waiting_le d (hmem d hd) v hv
    · intro d hd hnone
      rw [hrest] at hd
      exact h.notices d (hmem d hd) hnone
    · rintro (hsome | hcopying)
      · obtain ⟨l, others, hsplit⟩ := List.exists_cons_of_ne_nil hsome
        obtain ⟨-, -, k, hk, -⟩ := hlinks l (hsplit ▸ List.mem_cons_self)
        exact hrecording hsome (h.recording (.inl (List.ne_nil_of_mem hk)))
      · exact absurd hidle hcopying
    · exact fun version data hcopying => absurd hcopying hnotCopying
    · intro l hl hreplica
      obtain ⟨envelope, hencode, k, hk, hcases⟩ := hlinks l hl
      have hsame : k.replica = address := by
        rcases hcases with ⟨-, rfl⟩ | ⟨-, -, rfl⟩
        · exact hreplica
        · exact hreplica
      have hkept : (Node.Link.awaits k c = false ∧ l = k) ∨
          (Node.Link.awaits k c = true ∧ (x.send address contact c).1 ∧
            l = Node.Link.advance k c) := by
        rcases hcases with hpassed | ⟨hawaits, htakes, hadvance⟩
        · exact .inl hpassed
        · rw [← htook] at htakes
          dsimp only at htakes
          rw [if_pos hsame] at htakes
          exact .inr ⟨hawaits, htakes, hadvance⟩
      exact h.delivered hplain hpending hencode halike hversion hrest hk hsame hkept
    · exact fun version data hcopying => absurd hcopying hnotCopying

/-! ## Runs -/

lemma Following.run (h : x.Following address) (hplain : x.Plain) {e : Event} (hfair : e.Fair x)
    (hforward : e.Forward address x) (hafter : (e.run address x).Plain) :
    (e.run address x).Following address := by
  cases e with
  | serve around session r => exact h.serve hplain hfair hforward hafter
  | startAttach around target => exact h.startAttach hplain hfair
  | finishAttach contact takes => exact h.finishAttach contact takes
  | deliver contact takes => exact h.deliver hplain hfair

lemma Following.after (h : x.Following address) (hplain : x.Plain) {events : List Event}
    (hfair : x.FairRun address events) (hforward : x.ForwardRun address events) :
    (x.after address events).Following address := by
  induction events generalizing x with
  | nil => exact h
  | cons e rest ih =>
    obtain ⟨hfirst, hnext, hothers⟩ := hfair
    obtain ⟨hmoves, hrest⟩ := hforward
    exact ih (h.run hplain hfirst hmoves hnext) hnext hothers hrest

/-- **A replica that is linked holds what the node holds**, once nothing waits, if no snapshot moved
the node back or changed what it holds while it was engaged with the replica, and if the node is not
where a snapshot moved it since the replica took its copy. -/
theorem in_sync (address : Address) (x : Downstream) (events : List Event) (hfresh : x.Fresh)
    (hfair : x.FairRun address events) (hforward : x.ForwardRun address events)
    (hdrained : (x.after address events).Drained address)
    (hmoved : (x.after address events).moved ≠
      some (x.after address events).source.store.revision) :
    (x.after address events).InSync := by
  have hfollowing := (Fresh.following hfresh).after hfresh.plain hfair hforward
  obtain ⟨l, hl, hreplica⟩ := hdrained.linked
  obtain ⟨-, htracks⟩ := hfollowing.linked l hl hreplica
  obtain ⟨halike, hversion⟩ := htracks.drained hdrained.waiting hmoved
  exact ⟨hversion.symm, fun db key => (halike db key).1.symm⟩

/-! ### Two runs -/

/-- A check that a node is plain: it has no table with deadlines. -/
def looksPlain (x : Downstream) : Bool :=
  (x.source.store.agenda.deadlines.toList.all fun entry => entry.2.isEmpty) &&
    decide (x.source.store.revision < 2 ^ 63)

lemma plain_of_looksPlain (h : x.looksPlain) : x.Plain := by
  obtain ⟨hdeadlines, hbounded⟩ := Bool.and_eq_true _ _ ▸ h
  exact ⟨fun db key => Store.deadline?_of_all_isEmpty hdeadlines db key,
    of_decide_eq_true hbounded⟩

/-- A check that a run is fair, which goes through it once. -/
def looksFair (address : Address) (x : Downstream) : List Event → Bool
  | [] => true
  | e :: rest =>
    decide (e.Fair x) && (e.run address x).looksPlain && looksFair address (e.run address x) rest

lemma fairRun_of_looksFair {events : List Event} (h : x.looksFair address events) :
    x.FairRun address events := by
  induction events generalizing x with
  | nil => trivial
  | cons e rest ih =>
    obtain ⟨hfirst, hrest⟩ := Bool.and_eq_true _ _ ▸ h
    obtain ⟨hfair, hplain⟩ := Bool.and_eq_true _ _ ▸ hfirst
    exact ⟨of_decide_eq_true hfair, plain_of_looksPlain hplain, ih hrest⟩

/-- Where the replica listens. -/
def near : Address := ⟨"localhost", 1⟩

/-- An authority without keys, and a replica that is not attached yet. -/
def apart : Downstream where
  source := Node.new { Config.default with authority := true } (Directory.empty []) 0
  replica := Node.new Config.default (Directory.empty []) 0
  copying := none
  moved := none

lemma fresh_apart : apart.Fresh :=
  ⟨rfl, rfl, rfl, plain_of_looksPlain (by decide +kernel)⟩

/-- The node serves a request. -/
def served (r : Request) : Event :=
  .serve .alone (.new true) r

/-- A request that reaches the replica, and whose reply comes back. -/
def heard : Contact :=
  ⟨.alone, .new true, true, true⟩

/-- A snapshot without keys, encoded. -/
def noKeys : Bytes :=
  ((Store.new true).snapshot 0 0).encode.toOption.getD []

/-- A snapshot moves the node forward; the replica refuses the next change and is attached again
while another change is made. -/
def forwardEvents : List Event :=
  [.startAttach .alone near, .finishAttach heard true, served (copyRequest 7 noKeys),
    served ⟨"set", [[0x61], [0x31]]⟩, .deliver heard fun _ => true, .startAttach .alone near,
    served ⟨"set", [[0x62], [0x32]]⟩, .finishAttach heard true, .deliver heard fun _ => true]

/-- A snapshot moves the node back, whose next change the replica is taken to have already; with the
one after that the versions go on from where the replica is. -/
def backwardEvents : List Event :=
  [served ⟨"set", [[0x61], [0x31]]⟩, .startAttach .alone near, .finishAttach heard true,
    served (copyRequest 0 noKeys), served ⟨"set", [[0x62], [0x32]]⟩, .deliver heard fun _ => true,
    served ⟨"set", [[0x63], [0x33]]⟩, .deliver heard fun _ => true]

/-- A request without a snapshot moves nothing back. -/
lemma forward_served {r : Request} (h : x.source.replacement? (.new true) r = none) :
    (served r).Forward address x := by
  intro hengaged version snapshot hreplace
  rw [h] at hreplace
  cases hreplace

/-- A snapshot of a later version moves the node forward. -/
lemma forward_copied {r : Request} (later : Nat)
    (h : (x.source.replacement? (.new true) r).map Prod.fst = some later)
    (hlt : x.source.store.revision < later) : (served r).Forward address x := by
  intro hengaged version snapshot hreplace
  rw [hreplace] at h
  obtain rfl : version = later := Option.some.inj h
  exact .inl hlt

lemma forwardRun_forwardEvents : apart.ForwardRun near forwardEvents :=
  ⟨trivial, trivial, forward_copied 7 (by decide +kernel) (by decide +kernel),
    forward_served (by decide +kernel), trivial, trivial, forward_served (by decide +kernel),
    trivial, trivial, trivial⟩

/-- The replica has both changes. -/
theorem in_sync_forward :
    (apart.after near forwardEvents).Drained near ∧ (apart.after near forwardEvents).InSync ∧
      (apart.after near forwardEvents).replica.store.value? "0" "b" = some (.string [0x32]) := by
  have hlink : (⟨near, 9⟩ : Link) ∈ (apart.after near forwardEvents).source.links := by
    decide +kernel
  have hdrained : (apart.after near forwardEvents).Drained near :=
    ⟨by decide +kernel, ⟨near, 9⟩, hlink, rfl⟩
  have hsync := in_sync near apart forwardEvents fresh_apart
    (fairRun_of_looksFair (by decide +kernel)) forwardRun_forwardEvents hdrained (by decide +kernel)
  refine ⟨hdrained, hsync, ?_⟩
  rw [hsync.contents]
  decide +kernel

/-- A node that a snapshot moves back is not followed, and its replica is at its version all the
same. -/
theorem not_in_sync_rewound :
    ¬ ∀ (address : Address) (x : Downstream) (events : List Event), x.Fresh →
      x.FairRun address events → (x.after address events).Drained address →
        (x.after address events).InSync := by
  intro hall
  have hlink : (⟨near, 2⟩ : Link) ∈ (apart.after near backwardEvents).source.links := by
    decide +kernel
  have hdrained : (apart.after near backwardEvents).Drained near :=
    ⟨by decide +kernel, ⟨near, 2⟩, hlink, rfl⟩
  have hsync := hall near apart backwardEvents fresh_apart
    (fairRun_of_looksFair (by decide +kernel)) hdrained
  have hlost : (apart.after near backwardEvents).replica.store.value? "0" "b" = none := by
    decide +kernel
  have hheld : (apart.after near backwardEvents).source.store.value? "0" "b" =
      some (.string [0x32]) := by
    decide +kernel
  have hcontents := hsync.contents "0" "b"
  rw [hlost, hheld] at hcontents
  cases hcontents

end Downstream

end ReplicatedStore
