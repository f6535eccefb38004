import ReplicatedStore.Proofs.Node.Replaying
import ReplicatedStore.Proofs.Store.Restore

/-!
# A replica is always at a past state of its master

A replica takes a copy of its master, and then whatever the network brings it: the changes that the
master recorded after the copy was taken, in any order, some of them never and some of them more
than once.  As long as no key reaches its end, the replica holds at every moment what the master
held at some moment (`CopiedRun.mirrors_past`), and it moves on exactly with the change that comes
next.

The versions of the changes are what makes this work.  Changes are told apart by their versions only
below 2^63, because a change travels with its version in a word whose highest bit says otherwise;
`not_mirrors_past_late` is a run above, in which a replica runs a change that is not the next one.
-/

namespace ReplicatedStore

namespace Node

/-! ## What the master does -/

/-- What happens on the master: a client is served, or the clock is looked at. -/
inductive Event where
  /-- A request arrives in a session. -/
  | serve (around : Surroundings) (session : Session) (r : Request)
  /-- The keys whose end has come are removed. -/
  | pass (now : Nat)

/-- The node after an event. -/
def Event.run (n : Node) : Event → Node
  | .serve around session r => (n.dispatch around session r).2.1
  | .pass now => n.endKeys now

/-- The request asks for a change, or goes to another database, and no key has reached its end. -/
def Event.Calm (n : Node) : Event → Prop
  | .serve _ _ r => r.asksChange
  | .pass now => n.store.agenda.due now = []

/-- The node after events. -/
def after (n : Node) (events : List Event) : Node :=
  events.foldl Event.run n

/-- Every event of the run is calm. -/
def CalmRun (n : Node) : List Event → Prop
  | [] => True
  | e :: rest => e.Calm n ∧ CalmRun (e.run n) rest

@[simp] lemma after_nil (n : Node) : n.after [] = n := rfl

@[simp] lemma after_cons (n : Node) (e : Event) (rest : List Event) :
    n.after (e :: rest) = (e.run n).after rest := rfl

lemma after_append (n : Node) (events more : List Event) :
    n.after (events ++ more) = (n.after events).after more :=
  List.foldl_append

lemma calmRun_append {n : Node} {events more : List Event} (h : CalmRun n (events ++ more)) :
    CalmRun n events ∧ CalmRun (n.after events) more := by
  induction events generalizing n with
  | nil => exact ⟨trivial, h⟩
  | cons e rest ih =>
    obtain ⟨hfirst, hrest⟩ := h
    obtain ⟨hbefore, hmore⟩ := ih hrest
    exact ⟨⟨hfirst, hbefore⟩, hmore⟩

/-- A pass that finds no key to remove does nothing. -/
lemma endKeys_of_none_due {n : Node} {now : Nat} (h : n.store.agenda.due now = []) :
    n.endKeys now = n := by
  unfold endKeys Store.expirePass
  rw [h]
  rfl

/-- A calm event is one step of the store. -/
lemma Event.advances {n : Node} {e : Event} (h : e.Calm n) :
    ∃ now, Advances now n.store (e.run n).store := by
  cases e with
  | serve around session r => exact ⟨around.now, n.dispatch_advances around session h⟩
  | pass now =>
    refine ⟨now, ?_⟩
    show Advances now n.store (n.endKeys now).store
    rw [endKeys_of_none_due h]
    exact .quiet (.refl _) rfl rfl rfl

/-- The change was made by one event of the run. -/
def MadeIn (n : Node) (events : List Event) (c : Change) : Prop :=
  ∃ before e rest now, events = before ++ e :: rest ∧
    Store.Step now (n.after before).store (n.after (before ++ [e])).store [c]

/-- A calm run accounts for its changes, each of which one of its events makes. -/
lemma after_commits {n : Node} {events : List Event} (h : CalmRun n events) :
    ∃ changes, n.store.Commits changes (n.after events).store ∧
      ∀ c ∈ changes, MadeIn n events c := by
  induction events generalizing n with
  | nil =>
    refine ⟨[], .of_eq rfl rfl, ?_⟩
    intro c hc
    cases hc
  | cons e rest ih =>
    obtain ⟨hfirst, hrest⟩ := h
    obtain ⟨now, -, changes, hstep, hcommits⟩ := Event.advances hfirst
    obtain ⟨later, hlater, hmade⟩ := ih hrest
    refine ⟨changes ++ later, hcommits.trans hlater, ?_⟩
    intro c hc
    rcases List.mem_append.mp hc with hnow | hthen
    · cases hstep with
      | quiet contents version => cases hnow
      | made op pick db edits recordable suited outcome contents version =>
        obtain rfl := List.mem_singleton.mp hnow
        exact ⟨[], e, rest, now, rfl,
          .made op pick db edits recordable suited outcome contents version⟩
    · obtain ⟨before, e', rest', now', rfl, hstep'⟩ := hmade c hthen
      exact ⟨e :: before, e', rest', now', rfl, hstep'⟩

/-- A calm run that leaves the version as it was leaves the contents as they were. -/
lemma after_same {n : Node} {events : List Event} (h : CalmRun n events)
    (hversion : (n.after events).store.revision = n.store.revision) :
    n.store.SameContents (n.after events).store := by
  induction events generalizing n with
  | nil => exact .refl _
  | cons e rest ih =>
    obtain ⟨hfirst, hrest⟩ := h
    obtain ⟨now, -, changes, hstep, hcommits⟩ := Event.advances hfirst
    obtain ⟨later, hlater, -⟩ := after_commits hrest
    rw [after_cons] at hversion
    -- Versions never fall, so the first event made nothing and neither did the others.
    have hle := hcommits.revision_le
    have hle' := hlater.revision_le
    have hkept : (e.run n).store.revision = n.store.revision := by omega
    have hsame := ih hrest (hversion.trans hkept.symm)
    cases hstep with
    | quiet contents version => exact contents.trans hsame
    | made op pick db edits recordable suited outcome contents version => omega

/-- Two moments of a calm run with the same version have the same contents. -/
lemma same_of_version {n : Node} {before rest before' rest' : List Event}
    (h : CalmRun n (before ++ rest)) (hsplit : before ++ rest = before' ++ rest')
    (hversion : (n.after before').store.revision = (n.after before).store.revision) :
    (n.after before).store.SameContents (n.after before').store := by
  -- One of the moments comes before the other, and the run between them is calm.
  rcases List.append_eq_append_iff.mp hsplit with ⟨mid, rfl, rfl⟩ | ⟨mid, rfl, rfl⟩
  · have hmid := (calmRun_append (calmRun_append h).2).1
    rw [after_append] at hversion ⊢
    exact after_same hmid hversion
  · have hmid := (calmRun_append (calmRun_append (hsplit ▸ h)).2).1
    rw [after_append] at hversion ⊢
    exact (after_same hmid hversion.symm).symm

/-! ## What reaches the replica -/

/-- What happens on a replica: a change arrives, or the clock is looked at. -/
inductive Arrival where
  /-- A change arrives encoded in a session. -/
  | deliver (around : Surroundings) (session : Session) (c : Change) (envelope : Bytes)
  /-- The keys whose end has come are removed. -/
  | pass (now : Nat)

/-- The node after an arrival. -/
def Arrival.run (n : Node) : Arrival → Node
  | .deliver around session _ envelope =>
    (n.dispatch around session (replayRequest envelope)).2.1
  | .pass now => n.endKeys now

/-- One of the given changes arrives where it is looked at, and no key has reached its end. -/
def Arrival.Calm (changes : List Change) (n : Node) : Arrival → Prop
  | .deliver _ session c envelope =>
    session.authenticated ∧ c ∈ changes ∧ c.encode = .ok envelope
  | .pass now => n.store.agenda.due now = []

/-- The node after arrivals. -/
def received (n : Node) (arrivals : List Arrival) : Node :=
  arrivals.foldl Arrival.run n

/-- Every arrival is calm. -/
def CalmArrivals (changes : List Change) (n : Node) : List Arrival → Prop
  | [] => True
  | a :: rest => a.Calm changes n ∧ CalmArrivals changes (a.run n) rest

end Node

/-! ## A copy of the master and what becomes of it -/

/-- A master of which a copy is taken, a node that takes the copy, and what happens on both.

The copy is made at `now` by the clock of the master and at the unix time `wall`; the replica takes
it at `later` by its own clock and at the unix time `wallLater`.  From then on the master sees the
events and records the changes, and the replica sees the arrivals. -/
structure CopiedRun where
  now : Nat
  wall : Nat
  later : Nat
  wallLater : Nat
  master : Node
  replica : Node
  version : Nat
  data : Bytes
  events : List Node.Event
  changes : List Change
  arrivals : List Node.Arrival
  /-- The store of the master comes from a new one. -/
  reached : Store.ReachedBy now master.store
  /-- The master records its changes. -/
  recording : master.store.journal.recording
  /-- The copy is what the master gives out. -/
  dumped : master.store.dump now wall = .ok (version, data)
  /-- No key of the copy reaches its end before the replica takes it. -/
  lasting : ∀ db key deadline, master.store.deadline? db key = some deadline →
    wallLater < Store.wallTime now wall deadline
  /-- The unix time of every end has 64 bits. -/
  timely : wall + Store.longestLife < 2 ^ 64
  /-- The master serves requests for changes, and no key reaches its end there. -/
  calm : master.CalmRun events
  /-- These are the changes that it records. -/
  recorded : (master.after events).store.journal.pending = master.store.journal.pending ++ changes
  /-- The replica gets some of them in some order, and no key reaches its end there. -/
  calmArrivals : (replica.withStore
    (replica.store.replace later wallLater version data).2).CalmArrivals changes arrivals

namespace CopiedRun

variable (x : CopiedRun)

/-- The master in the end. -/
def final : Node :=
  x.master.after x.events

/-- The replica once it took the copy. -/
def started : Node :=
  x.replica.withStore (x.replica.store.replace x.later x.wallLater x.version x.data).2

/-- The replica in the end. -/
def mirror : Node :=
  x.started.received x.arrivals

/-- The replica is at a past state of the master, and moves on with the change that comes next. -/
structure MirrorsPast : Prop where
  /-- The replica took the copy. -/
  taken : (x.replica.store.replace x.later x.wallLater x.version x.data).1 = .ok ()
  /-- The master once had the version of the replica. -/
  moment : ∃ before rest, x.events = before ++ rest ∧
    (x.master.after before).store.revision = x.mirror.store.revision
  /-- The replica holds what the master held whenever it had that version. -/
  contents : ∀ before rest, x.events = before ++ rest →
    (x.master.after before).store.revision = x.mirror.store.revision → ∀ db key,
      x.mirror.store.value? db key = (x.master.after before).store.value? db key ∧
        (x.mirror.store.deadline? db key).isSome =
          ((x.master.after before).store.deadline? db key).isSome
  /-- The recorded changes have versions. -/
  numbered : ∀ c ∈ x.changes, ∃ version, c.version = some version
  /-- A change that is not the next one is refused, and changes nothing. -/
  stale : ∀ around session c envelope version, session.authenticated → c ∈ x.changes →
    c.encode = .ok envelope → c.version = some version → version ≠ x.mirror.store.revision + 1 →
      (x.mirror.dispatch around session (replayRequest envelope)).1 = .error "version mismatch" ∧
        (x.mirror.dispatch around session (replayRequest envelope)).2.1.store =
          x.mirror.store.recordOperation
  /-- The next change takes the replica to its version. -/
  next : ∀ around session c envelope, session.authenticated → c ∈ x.changes →
    c.encode = .ok envelope → c.version = some (x.mirror.store.revision + 1) →
      (x.mirror.dispatch around session (replayRequest envelope)).1 = .ok ∧
        (x.mirror.dispatch around session (replayRequest envelope)).2.1.store.revision =
          x.mirror.store.revision + 1

variable {x}

/-- The store is a copy of the other one, whose deadlines may differ. -/
abbrev Copies (s t : Store) : Prop :=
  s.Follows (fun _ _ => True) 0 (fun _ _ => False) t

/-- What holds of the replica after every arrival. -/
structure AtPast (x : CopiedRun) (t : Store) : Prop where
  moment : ∃ before rest, x.events = before ++ rest ∧
    (x.master.after before).store.revision = t.revision
  copies : ∀ before rest, x.events = before ++ rest →
    (x.master.after before).store.revision = t.revision → Copies (x.master.after before).store t

/-- One moment with the version of the replica stands for all of them. -/
lemma AtPast.of_moment {t : Store} (before rest : List Node.Event)
    (hsplit : x.events = before ++ rest)
    (hversion : (x.master.after before).store.revision = t.revision)
    (hcopies : Copies (x.master.after before).store t) : x.AtPast t where
  moment := ⟨before, rest, hsplit, hversion⟩
  copies := by
    intro before' rest' hsplit' hversion'
    have hcalm := x.calm
    rw [hsplit] at hcalm
    have hsame := Node.same_of_version hcalm (hsplit.symm.trans hsplit')
      (hversion'.trans hversion.symm)
    exact hcopies.congr hsame (.refl t)

/-- The changes that are recorded are those that the events make. -/
lemma made_of_mem {c : Change} (hc : c ∈ x.changes) :
    x.master.MadeIn x.events c ∧ ∀ version, c.version = some version →
      version ≤ x.final.store.revision := by
  obtain ⟨changes, hcommits, hmade⟩ := Node.after_commits x.calm
  have hpending := hcommits.pending
  rw [x.recording, if_pos rfl, x.recorded] at hpending
  obtain rfl := List.append_cancel_left hpending
  refine ⟨hmade c hc, fun version hversion => ?_⟩
  have hmem : version ∈ Store.versionsOf x.changes := List.mem_filterMap.mpr ⟨c, hc, hversion⟩
  rw [hcommits.versions, Store.mem_versionsBetween] at hmem
  exact hmem.2

lemma hasPlainVersion {c : Change} (hbound : x.final.store.revision < 2 ^ 63) (hc : c ∈ x.changes) :
    c.HasPlainVersion := by
  intro version hversion
  have hle := (made_of_mem hc).2 version hversion
  omega

/-- The replica that took the copy is where the master was. -/
lemma atPast_started (x : CopiedRun) :
    (x.replica.store.replace x.later x.wallLater x.version x.data).1 = .ok () ∧
      x.AtPast x.started.store := by
  -- No key of the copy has reached its end, so none is lost.
  have hlasting : x.master.store.Ended x.now x.wall x.wallLater = fun _ _ => False := by
    funext d k
    refine propext ⟨?_, False.elim⟩
    rintro ⟨deadline, hdeadline, hended⟩
    have hlast := x.lasting d k deadline hdeadline
    omega
  have hnone : ∀ d k deadline, x.master.store.deadline? d k = some deadline →
      Store.wallTime x.now x.wall deadline ≤ x.wallLater → deadline ≤ 0 := by
    intro d k deadline hdeadline hended
    have hlast := x.lasting d k deadline hdeadline
    omega
  obtain ⟨copy, hreplace, hversion, -, hfollows⟩ := x.reached.follows_copy x.dumped x.timely
    x.replica.store x.later (fun _ _ => True) (fun _ _ _ _ _ => trivial) hnone
  rw [hlasting] at hfollows
  have hstarted : x.started.store = copy := by
    rw [started, hreplace]
    rfl
  rw [hreplace, hstarted]
  exact ⟨rfl, .of_moment [] x.events rfl hversion.symm hfollows⟩

/-- What a change that arrives does to a replica at a past state. -/
lemma AtPast.deliver {n : Node} (h : x.AtPast n.store) (hbound : x.final.store.revision < 2 ^ 63)
    (around : Surroundings) {session : Session} (hauthenticated : session.authenticated)
    {c : Change} (hc : c ∈ x.changes) {envelope : Bytes} (hencode : c.encode = .ok envelope) :
    ∃ version, c.version = some version ∧
      (version ≠ n.store.revision + 1 →
        (n.dispatch around session (replayRequest envelope)).1 = .error "version mismatch" ∧
          (n.dispatch around session (replayRequest envelope)).2.1.store =
            n.store.recordOperation) ∧
      (version = n.store.revision + 1 →
        (n.dispatch around session (replayRequest envelope)).1 = .ok ∧
          (n.dispatch around session (replayRequest envelope)).2.1.store.revision = version ∧
          x.AtPast (n.dispatch around session (replayRequest envelope)).2.1.store) := by
  have hplain := hasPlainVersion hbound hc
  -- The change was made at one moment of the run; it is next if the replica is at that moment.
  obtain ⟨before, e, rest, now, hsplit, hstep⟩ := (made_of_mem hc).1
  obtain ⟨hraised, hnumber⟩ := hstep.version_eq
  refine ⟨_, hnumber, fun hstale => ?_, fun hnext => ?_⟩
  · exact Node.delivered_stale around hplain hencode hauthenticated hnumber hstale
  · have hversion : n.store.revision = (x.master.after before).store.revision := by omega
    have hcopies := h.copies before (e :: rest) hsplit hversion.symm
    obtain ⟨hreply, hfollows, hlevel, -⟩ := Node.delivered_next around hcopies hversion hstep
      (fun _ _ _ hlost => hlost) (fun _ => trivial) hplain hencode hauthenticated
    refine ⟨hreply, hlevel.trans hraised, ?_⟩
    have hnone : (fun d k => False ∧ ¬ c.settles d k) = fun _ _ => False := by
      funext d k
      exact propext ⟨fun hlost => hlost.1, False.elim⟩
    rw [hnone] at hfollows
    refine .of_moment (before ++ [e]) rest ?_ hlevel.symm hfollows
    rw [hsplit, List.append_assoc]
    rfl

/-- The replica stays at past states, whatever reaches it. -/
lemma AtPast.received {n : Node} (h : x.AtPast n.store) (hbound : x.final.store.revision < 2 ^ 63)
    {arrivals : List Node.Arrival} (hcalm : n.CalmArrivals x.changes arrivals) :
    x.AtPast (n.received arrivals).store := by
  induction arrivals generalizing n with
  | nil => exact h
  | cons a rest ih =>
    obtain ⟨hfirst, hrest⟩ := hcalm
    refine ih ?_ hrest
    cases a with
    | deliver around session c envelope =>
      obtain ⟨hauthenticated, hc, hencode⟩ := hfirst
      obtain ⟨version, -, hstale, hnext⟩ := h.deliver hbound around hauthenticated hc hencode
      show x.AtPast (n.dispatch around session (replayRequest envelope)).2.1.store
      by_cases hversion : version = n.store.revision + 1
      · exact (hnext hversion).2.2
      · rw [(hstale hversion).2]
        exact ⟨h.moment, fun before rest hsplit hat =>
          (h.copies before rest hsplit hat).congr (.refl _) (.refl n.store)⟩
    | pass now =>
      show x.AtPast (n.endKeys now).store
      rw [Node.endKeys_of_none_due hfirst]
      exact h

/-- **A replica is always at a past state of its master**, whatever the network does. -/
theorem mirrors_past (x : CopiedRun) (hbound : x.final.store.revision < 2 ^ 63) :
    x.MirrorsPast := by
  obtain ⟨htaken, hstarted⟩ := x.atPast_started
  have hpast : x.AtPast x.mirror.store := hstarted.received hbound x.calmArrivals
  constructor
  · exact htaken
  · exact hpast.moment
  · intro before rest hsplit hversion db key
    have hcopies := hpast.copies before rest hsplit hversion
    exact ⟨hcopies.value db key not_false, (hcopies.paired db key not_false).1⟩
  · intro c hc
    obtain ⟨before, e, rest, now, hsplit, hstep⟩ := (made_of_mem hc).1
    exact ⟨_, hstep.version_eq.2⟩
  · intro around session c envelope version hauthenticated hc hencode hversion hstale
    obtain ⟨v, hv, hrefused, -⟩ := hpast.deliver hbound around hauthenticated hc hencode
    obtain rfl : v = version := Option.some.inj (hv.symm.trans hversion)
    exact hrefused hstale
  · intro around session c envelope hauthenticated hc hencode hversion
    obtain ⟨v, hv, -, hcarried⟩ := hpast.deliver hbound around hauthenticated hc hencode
    obtain rfl : v = _ := Option.some.inj (hv.symm.trans hversion)
    obtain ⟨hreply, hlevel, -⟩ := hcarried rfl
    exact ⟨hreply, hlevel⟩

/-! ### Two runs -/

/-- A store that holds the string "5" and records. -/
def countingStore : Store :=
  (Store.Action.setRecording true).run 0
    ((Store.Action.perform (.set "k" [0x35]) 0 "0").run 0 (Store.new true))

/-- The change that adds one. -/
def countingChange : Change :=
  ⟨"0", "incrby", [[0x6B], [0x31]], some 2⟩

/-- The encoded form of that change. -/
def countingEnvelope : Bytes :=
  countingChange.encode.toOption.getD []

/-- The encoded contents of the store. -/
def countingCopy : Bytes :=
  (countingStore.snapshot 0 0).encode.toOption.getD []

/-- A run in which one is added to the string, and the change arrives twice. -/
def countingRun : CopiedRun where
  now := 0
  wall := 0
  later := 0
  wallLater := 0
  master := (Node.new { Config.default with authority := true } (Directory.empty []) 0).withStore
    countingStore
  replica := Node.new Config.default (Directory.empty []) 0
  version := 1
  data := countingCopy
  events := [.serve .alone (.new true) ⟨"incr", [[0x6B]]⟩]
  changes := [countingChange]
  arrivals := [.deliver .alone (.new true) countingChange countingEnvelope,
    .deliver .alone (.new true) countingChange countingEnvelope]
  reached := .run (.run (.new true 0) (Nat.le_refl 0) (.perform (.set "k" [0x35]) 0 "0"))
    (Nat.le_refl 0) (.setRecording true)
  recording := by decide +kernel
  dumped := by decide +kernel
  lasting := by
    intro db key deadline h
    rw [Node.store_withStore, Store.deadline?_of_all_isEmpty (by decide +kernel)] at h
    cases h
  timely := Store.longestLife_lt
  calm := ⟨rfl, trivial⟩
  recorded := by decide +kernel
  calmArrivals := by
    have hencode : countingChange.encode = .ok countingEnvelope := by decide +kernel
    have hmem : countingChange ∈ [countingChange] := List.mem_singleton_self _
    exact ⟨⟨rfl, hmem, hencode⟩, ⟨rfl, hmem, hencode⟩, trivial⟩

/-- One is added once. -/
theorem mirrors_past_counting :
    countingRun.final.store.revision < 2 ^ 63 ∧
      countingRun.mirror.store.value? "0" "k" = some (.string [0x36]) := by
  have hbound : countingRun.final.store.revision < 2 ^ 63 := by decide +kernel
  have hmirrors := mirrors_past countingRun hbound
  refine ⟨hbound, ?_⟩
  rw [(hmirrors.contents countingRun.events [] rfl (by decide +kernel) "0" "k").1]
  decide +kernel

/-- An encoded copy without keys. -/
def emptyCopy : Bytes :=
  ((Store.new true).snapshot 0 0).encode.toOption.getD []

/-- A store that took a copy without keys, of a very late version, and records. -/
def lateStore : Store :=
  (Store.Action.setRecording true).run 0
    ((Store.Action.replace 0 0xFFFFFFFFFFFFFFFD emptyCopy).run 0 (Store.new true))

/-- The change with the last version that a word can hold. -/
def lateChange : Change :=
  ⟨"0", "set", [[0x62], [0x31]], some 0xFFFFFFFFFFFFFFFF⟩

/-- The encoded form of that change. -/
def lateEnvelope : Bytes :=
  lateChange.encode.toOption.getD []

/-- A run that goes to the last version that a word can hold. -/
def lateRun : CopiedRun where
  now := 0
  wall := 0
  later := 0
  wallLater := 0
  master := (Node.new { Config.default with authority := true } (Directory.empty []) 0).withStore
    lateStore
  replica := Node.new Config.default (Directory.empty []) 0
  version := 0xFFFFFFFFFFFFFFFD
  data := emptyCopy
  events := [.serve .alone (.new true) ⟨"set", [[0x61], [0x31]]⟩,
    .serve .alone (.new true) ⟨"set", [[0x62], [0x31]]⟩]
  changes := [⟨"0", "set", [[0x61], [0x31]], some 0xFFFFFFFFFFFFFFFE⟩, lateChange]
  arrivals := []
  reached := .run (.run (.new true 0) (Nat.le_refl 0)
    (.replace 0 0xFFFFFFFFFFFFFFFD emptyCopy)) (Nat.le_refl 0) (.setRecording true)
  recording := by decide +kernel
  dumped := by decide +kernel
  lasting := by
    intro db key deadline h
    rw [Node.store_withStore, Store.deadline?_of_all_isEmpty (by decide +kernel)] at h
    cases h
  timely := Store.longestLife_lt
  calm := ⟨rfl, rfl, trivial⟩
  recorded := by decide +kernel
  calmArrivals := trivial

/-- The bound on versions is needed: the last version of a word is the mark of changes without a
version, which replicas run whenever they arrive. -/
theorem not_mirrors_past_late : ¬ lateRun.MirrorsPast := by
  intro h
  have hmem : lateChange ∈ lateRun.changes := List.mem_cons_of_mem _ (List.mem_singleton_self _)
  have hencode : lateChange.encode = .ok lateEnvelope := by decide +kernel
  have hstale : 0xFFFFFFFFFFFFFFFF ≠ lateRun.mirror.store.revision + 1 := by decide +kernel
  obtain ⟨-, hstore⟩ := h.stale .alone (.new true) lateChange lateEnvelope _ rfl hmem hencode rfl
    hstale
  have hmoved : (lateRun.mirror.dispatch .alone (.new true)
      (replayRequest lateEnvelope)).2.1.store.revision ≠
        lateRun.mirror.store.recordOperation.revision := by decide +kernel
  exact hmoved (congrArg Store.revision hstore)

end CopiedRun

end ReplicatedStore
