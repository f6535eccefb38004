import ReplicatedStore.Proofs.Replication.Coordination
import ReplicatedStore.Proofs.Replication.PastStates
import ReplicatedStore.Proofs.Store.Alike

/-!
# Replicas of replicas

A replica may have replicas of its own: while its journal records, the changes that it carries out
wait there as they do on the authority.  What it records for a change that it was sent is that
change, octet by octet (`Node.delivered_leads`), although its own operations wrote it down anew.  So
a chain of replicas, each attached to the one before it at any moment, carries one stream of changes
from end to end (`RelayedRun.carries_stream`).

The stream is that of the versions: what a store of version `v` still has to be sent is what was
recorded above `v`, and these changes lead from it to the last store of the authority.
-/

namespace ReplicatedStore

open Store (Alike Leads Path)

/-! ## Streams by version -/

namespace Store.Path

variable {s t u : Store} {cs ds : List Change}

lemma filter_isAbove_self (h : Path s cs t) {version : Nat} (hle : version ≤ s.revision) :
    cs.filter (Change.isAbove version) = cs := by
  rw [List.filter_eq_self]
  intro c hc
  obtain ⟨v, hv, hlow, -⟩ := h.version_of_mem hc
  have hlt : version < v := by omega
  simp [Change.isAbove, hv, hlt]

lemma filter_isAbove_nil (h : Path s cs t) {version : Nat} (hle : t.revision ≤ version) :
    cs.filter (Change.isAbove version) = [] := by
  rw [List.filter_eq_nil_iff]
  intro c hc
  obtain ⟨v, hv, -, hhigh⟩ := h.version_of_mem hc
  have hnot : ¬ version < v := by omega
  simp [Change.isAbove, hv, hnot]

/-- Above a version on the way lies the rest of the way. -/
lemma filter_isAbove (h : Path s cs t) (g : Path t ds u) :
    (cs ++ ds).filter (Change.isAbove t.revision) = ds := by
  rw [List.filter_append, h.filter_isAbove_nil (Nat.le_refl _),
    g.filter_isAbove_self (Nat.le_refl _), List.nil_append]

end Store.Path

/-- The change on the path that has the first version is its first one. -/
lemma Store.Path.leads_of_mem {s t : Store} {c : Change} {cs : List Change} (h : Path s cs t)
    (hc : c ∈ cs) (hversion : c.version = some (s.revision + 1)) : ∃ u, Leads s u c := by
  cases h with
  | done alike version => cases hc
  | step first rest =>
    rcases List.mem_cons.mp hc with rfl | hlater
    · exact ⟨_, first⟩
    · obtain ⟨v, hv, hlow, -⟩ := rest.version_of_mem hlater
      have hraised := first.version_eq.1
      have hsame : v = s.revision + 1 := Option.some.inj (hv.symm.trans hversion)
      omega

/-- What is above a version and then above a later one. -/
lemma Change.filter_isAbove_filter {low high : Nat} (hle : low ≤ high) (changes : List Change) :
    (changes.filter (isAbove low)).filter (isAbove high) = changes.filter (isAbove high) := by
  rw [List.filter_filter]
  refine List.filter_congr fun c _ => ?_
  cases hversion : c.version with
  | none => simp [isAbove, hversion]
  | some v =>
    simp only [isAbove, hversion, Option.any_some, Bool.and_eq_left_iff_imp, decide_eq_true_eq]
    omega

namespace Node

/-! ## One change -/

variable {n : Node} {s u : Store} {c : Change}

/-- A replica that is where the change was made is taken where the change leads, and records it. -/
lemma replayChange_leads (around : Surroundings) (h : Leads s u c) (hs : Alike s n.store)
    (hversion : n.store.revision = s.revision) :
    Alike u (n.replayChange around c).store ∧
      (n.replayChange around c).store.revision = u.revision ∧
      (n.replayChange around c).store.journal.recording = n.store.journal.recording ∧
      (n.replayChange around c).store.journal.pending = n.store.journal.pending ++
        if n.store.journal.recording then [c] else [] := by
  obtain ⟨hraised, hnumber⟩ := h.version_eq
  obtain ⟨op, hrecordable, hc, hperform⟩ := h.perform hs hversion
  obtain ⟨answer, edits, hresult, halike⟩ := hperform around.now around.pick
  have hreplay : (n.replayChange around c).store =
      (op.perform n.store around.now around.pick c.db).2 := by
    rw [hc, n.replayChange_recorded around hrecordable]
    rfl
  have hsame := n.store.sameCounters_edit around.now edits
  have hcommitted : (⟨c.db, c.command, c.args, some (n.store.revision + 1)⟩ : Change) = c := by
    rw [hversion, ← hnumber]
  rw [hreplay]
  refine ⟨halike, ?_, ?_, ?_⟩
  · rw [hresult, Store.revision_commit, hsame.revision, hraised, hversion]
  · rw [hresult, Store.recording_commit, hsame.journal]
  · rw [hresult, Store.pending_commit, hsame.journal, hsame.revision, hcommitted]

/-- **A change that is delivered in its turn is recorded as it is.** -/
lemma delivered_leads (around : Surroundings) {session : Session} {envelope : Bytes}
    (h : Leads s u c) (hs : Alike s n.store) (hversion : n.store.revision = s.revision)
    (hplain : c.HasPlainVersion) (hencode : c.encode = .ok envelope)
    (hauthenticated : session.authenticated) :
    let served := n.dispatch around session (replayRequest envelope)
    served.1 = .ok ∧ Alike u served.2.1.store ∧ served.2.1.store.revision = u.revision ∧
      served.2.1.store.journal.recording = n.store.journal.recording ∧
      served.2.1.store.journal.pending = n.store.journal.pending ++
        if n.store.journal.recording then [c] else [] := by
  intro served
  have hnext : c.version = some (n.store.revision + 1) := by
    rw [hversion]
    exact h.version_eq.2
  obtain ⟨hreply, hstore⟩ :=
    delivered_run around hplain hencode hauthenticated (checkVersion_next hnext)
  refine ⟨hreply, ?_⟩
  rw [hstore]
  exact replayChange_leads (n := n.withStore n.store.recordOperation) around h hs hversion

/-! ## A stream -/

/-- A calm run of the authority makes changes that lead to the store it leaves. -/
lemma calmRun_path {events : List Event} (h : CalmRun n events) :
    ∃ changes, Path n.store changes (n.after events).store ∧
      n.store.Commits changes (n.after events).store := by
  induction events generalizing n with
  | nil => exact ⟨[], .done (.refl _) rfl, .of_eq rfl rfl⟩
  | cons e rest ih =>
    obtain ⟨hfirst, hrest⟩ := h
    obtain ⟨now, -, changes, hstep, hcommits⟩ := Event.advances hfirst
    obtain ⟨later, hpath, hlater⟩ := ih hrest
    refine ⟨changes ++ later, ?_, hcommits.trans hlater⟩
    cases hstep with
    | quiet contents version => exact hpath.of_alike (Alike.of_same contents).symm version.symm
    | made op pick db edits recordable suited outcome contents version =>
      have hleads : Leads n.store (e.run n).store (op.toChange db (n.store.revision + 1)) :=
        .made op db edits now recordable (Operation.outcome_recorded outcome) (.of_same contents)
          version
      exact .step hleads hpath

/-- The change that arrives. -/
def Arrival.change? : Arrival → Option Change
  | .deliver _ _ c _ => some c
  | .pass _ => none

lemma calmArrivals_append {stream : List Change} {arrivals more : List Arrival}
    (h : n.CalmArrivals stream (arrivals ++ more)) : n.CalmArrivals stream arrivals := by
  induction arrivals generalizing n with
  | nil => trivial
  | cons a rest ih => exact ⟨h.1, ih h.2⟩

/-- The changes before the store, in the order of their versions, lead to the last store. -/
def Approaches (changes : List Change) (final : Store) (s : Store) : Prop :=
  Path s (changes.filter (Change.isAbove s.revision)) final

/-- The first of the changes before a node takes it to where the others are before it. -/
lemma delivered_approaches {changes more : List Change} {final : Store} (around : Surroundings)
    {session : Session} {envelope : Bytes} (happroaches : Approaches changes final n.store)
    (hbefore : changes.filter (Change.isAbove n.store.revision) = c :: more)
    (hplain : c.HasPlainVersion) (hrecording : n.store.journal.recording)
    (hencode : c.encode = .ok envelope) (hauthenticated : session.authenticated) :
    let next := (n.dispatch around session (replayRequest envelope)).2.1
    Approaches changes final next.store ∧
      changes.filter (Change.isAbove next.store.revision) = more ∧
      n.store.revision ≤ next.store.revision ∧ next.store.journal.recording ∧
      next.store.journal.pending = n.store.journal.pending ++ [c] := by
  intro next
  unfold Approaches at happroaches
  rw [hbefore] at happroaches
  cases happroaches with
  | step first onward =>
    rename_i u
    have hraised := first.version_eq.1
    obtain ⟨-, halike, hlevel, hstill, hpending⟩ :=
      delivered_leads around first (.refl _) rfl hplain hencode hauthenticated
    rw [hrecording, if_pos rfl] at hpending
    have hafter : changes.filter (Change.isAbove u.revision) = more := by
      rw [← Change.filter_isAbove_filter (by omega : n.store.revision ≤ u.revision), hbefore]
      exact (Path.of_leads first).filter_isAbove onward
    rw [← hlevel] at hafter
    have hraises : n.store.revision ≤ next.store.revision := hlevel ▸ hraised ▸ Nat.le_succ _
    refine ⟨?_, hafter, hraises, hstill.trans hrecording, hpending⟩
    unfold Approaches
    rw [hafter]
    exact onward.of_alike halike hlevel

/-- A node that gets the changes before it in their order records them in that order. -/
lemma received_approaches {changes stream : List Change} {final : Store} {arrivals : List Arrival}
    (happroaches : Approaches changes final n.store) (hplain : ∀ c ∈ changes, c.HasPlainVersion)
    (hrecording : n.store.journal.recording) (hcalm : n.CalmArrivals stream arrivals)
    (hordered : arrivals.filterMap Arrival.change? <+:
      changes.filter (Change.isAbove n.store.revision)) :
    Approaches changes final (n.received arrivals).store ∧
      n.store.revision ≤ (n.received arrivals).store.revision ∧
      (n.received arrivals).store.journal.pending =
        n.store.journal.pending ++ arrivals.filterMap Arrival.change? := by
  induction arrivals generalizing n with
  | nil => exact ⟨happroaches, Nat.le_refl _, by simp [received]⟩
  | cons a rest ih =>
    obtain ⟨hfirst, hrest⟩ := hcalm
    cases a with
    | pass now =>
      have hsame : n.endKeys now = n := endKeys_of_none_due hfirst
      have hrun : (Arrival.pass now).run n = n := hsame
      rw [hrun] at hrest
      show Approaches changes final ((n.endKeys now).received rest).store ∧
        n.store.revision ≤ ((n.endKeys now).received rest).store.revision ∧
          ((n.endKeys now).received rest).store.journal.pending = _
      rw [hsame]
      exact ih happroaches hrecording hrest hordered
    | deliver around session c envelope =>
      obtain ⟨hauthenticated, -, hencode⟩ := hfirst
      -- The change is the first of those before the node, and the others follow it.
      obtain ⟨others, hothers⟩ := hordered
      have hbefore : changes.filter (Change.isAbove n.store.revision) =
          c :: (rest.filterMap Arrival.change? ++ others) := hothers.symm
      have hc : c ∈ changes := (List.mem_filter.mp (hbefore ▸ List.mem_cons_self)).1
      obtain ⟨honward, hafter, hraised, hstill, hpending⟩ := delivered_approaches around
        happroaches hbefore (hplain c hc) hrecording hencode hauthenticated
      obtain ⟨hends, hgrows, hqueue⟩ := ih honward hstill hrest ⟨others, hafter.symm⟩
      refine ⟨hends, Nat.le_trans hraised hgrows, hqueue.trans ?_⟩
      rw [hpending, List.append_assoc]
      rfl

end Node

/-! ## Chains -/

/-- What a node is to the replicas attached to it: the stores it goes through, any of which a
replica may have taken a copy of, and the changes that it records on the way. -/
structure Source where
  passes : Store → Prop
  stream : List Change

/-- The changes recorded since the journal was as in the first store. -/
def Store.recordedSince (s t : Store) : List Change :=
  t.journal.pending.drop s.journal.pending.length

lemma Store.recordedSince_of_append {s t : Store} {changes : List Change}
    (h : t.journal.pending = s.journal.pending ++ changes) : s.recordedSince t = changes := by
  rw [recordedSince, h, List.drop_left]

lemma Store.Commits.recordedSince {s t : Store} {changes : List Change} (h : s.Commits changes t)
    (hrecording : s.journal.recording) : s.recordedSince t = changes := by
  have hpending := h.pending
  rw [hrecording, if_pos rfl] at hpending
  exact recordedSince_of_append hpending

/-- A replica from the moment it took its copy, and what arrived there. -/
structure Hop where
  node : Node
  arrivals : List Node.Arrival

namespace Hop

/-- The changes that were sent to it. -/
def sent (hop : Hop) : List Change :=
  hop.arrivals.filterMap Node.Arrival.change?

/-- The changes that it recorded. -/
def recorded (hop : Hop) : List Change :=
  hop.node.store.recordedSince (hop.node.received hop.arrivals).store

def source (hop : Hop) : Source where
  passes s := ∃ earlier, earlier <+: hop.arrivals ∧ s = (hop.node.received earlier).store
  stream := hop.recorded

/-- The replica is attached to the source: it took a copy of a store that the source went through,
records, and is sent what the source recorded above the version of that copy, in its order. -/
structure AttachedTo (hop : Hop) (source : Source) : Prop where
  copied : ∃ s, source.passes s ∧ Alike s hop.node.store ∧ hop.node.store.revision = s.revision
  recording : hop.node.store.journal.recording
  calm : hop.node.CalmArrivals source.stream hop.arrivals
  ordered : hop.sent <+: source.stream.filter (Change.isAbove hop.node.store.revision)

end Hop

/-- Each replica of the chain is attached to the one before it, and the first to the source. -/
def Chain (source : Source) : List Hop → Prop
  | [] => True
  | hop :: rest => hop.AttachedTo source ∧ Chain hop.source rest

/-- An authority that records and serves requests for changes, and on which no key reaches its
end. -/
structure RelayedRun where
  master : Node
  events : List Node.Event
  recording : master.store.journal.recording
  calm : master.CalmRun events

namespace RelayedRun

variable (x : RelayedRun)

def final : Node :=
  x.master.after x.events

/-- The changes that it records. -/
def changes : List Change :=
  x.master.store.recordedSince x.final.store

def source : Source where
  passes s := ∃ before rest, x.events = before ++ rest ∧ s = (x.master.after before).store
  stream := x.changes

variable {x}

/-- At every moment, what the master records later leads to where it ends. -/
lemma passes_approaches {s : Store} (h : x.source.passes s) :
    Node.Approaches x.changes x.final.store s ∧ x.master.store.revision ≤ s.revision := by
  obtain ⟨before, rest, hsplit, rfl⟩ := h
  have hcalm := x.calm
  rw [hsplit] at hcalm
  obtain ⟨hearly, hlate⟩ := Node.calmRun_append hcalm
  obtain ⟨cs, hfirst, hcs⟩ := Node.calmRun_path hearly
  obtain ⟨ds, hsecond, hds⟩ := Node.calmRun_path hlate
  have hfinal : x.final = (x.master.after before).after rest := by
    rw [final, hsplit, Node.after_append]
  have hchanges : x.changes = cs ++ ds := by
    rw [changes, hfinal]
    exact (hcs.trans hds).recordedSince x.recording
  refine ⟨?_, hfirst.versions.1⟩
  rw [Node.Approaches, hchanges, hfirst.filter_isAbove hsecond, hfinal]
  exact hsecond

lemma changes_path (x : RelayedRun) : Path x.master.store x.changes x.final.store := by
  obtain ⟨cs, hpath, hcommits⟩ := Node.calmRun_path x.calm
  have hchanges : x.changes = cs := hcommits.recordedSince x.recording
  rw [hchanges]
  exact hpath

lemma hasPlainVersion (hbound : x.final.store.revision < 2 ^ 63) :
    ∀ c ∈ x.changes, c.HasPlainVersion := by
  intro c hc version hversion
  obtain ⟨v, hv, -, hhigh⟩ := x.changes_path.version_of_mem hc
  obtain rfl : v = version := Option.some.inj (hv.symm.trans hversion)
  omega

/-- The source goes through stores that the rest of the master's changes leads on from, and records
those changes from some version on. -/
def Relays (x : RelayedRun) (source : Source) : Prop :=
  ∃ low, (∀ s, source.passes s → Node.Approaches x.changes x.final.store s ∧ low ≤ s.revision) ∧
    source.stream <+: x.changes.filter (Change.isAbove low)

lemma relays_source (x : RelayedRun) : x.Relays x.source := by
  refine ⟨x.master.store.revision, fun s hs => passes_approaches hs, ?_⟩
  rw [x.changes_path.filter_isAbove_self (Nat.le_refl _)]
  exact List.prefix_rfl

/-- A replica attached to what relays the changes relays them too. -/
lemma Relays.attached {source : Source} (h : x.Relays source) {hop : Hop}
    (hattached : hop.AttachedTo source) (hplain : ∀ c ∈ x.changes, c.HasPlainVersion) :
    hop.recorded = hop.sent ∧
      hop.sent <+: x.changes.filter (Change.isAbove hop.node.store.revision) ∧
      x.Relays hop.source := by
  obtain ⟨low, hpasses, hstream⟩ := h
  obtain ⟨s, hs, halike, hversion⟩ := hattached.copied
  obtain ⟨hpath, hlow⟩ := hpasses s hs
  have hstart : Node.Approaches x.changes x.final.store hop.node.store := by
    unfold Node.Approaches at hpath ⊢
    rw [hversion]
    exact hpath.of_alike halike hversion
  have hle : low ≤ hop.node.store.revision := by omega
  have hsent : hop.sent <+: x.changes.filter (Change.isAbove hop.node.store.revision) := by
    have habove := hstream.filter (Change.isAbove hop.node.store.revision)
    rw [Change.filter_isAbove_filter hle] at habove
    exact hattached.ordered.trans habove
  have hrun : ∀ earlier, earlier <+: hop.arrivals →
      Node.Approaches x.changes x.final.store (hop.node.received earlier).store ∧
        hop.node.store.revision ≤ (hop.node.received earlier).store.revision ∧
        (hop.node.received earlier).store.journal.pending =
          hop.node.store.journal.pending ++ earlier.filterMap Node.Arrival.change? := by
    rintro earlier ⟨later, hsplit⟩
    have hcalm := hattached.calm
    rw [← hsplit] at hcalm
    refine Node.received_approaches hstart hplain hattached.recording
      (Node.calmArrivals_append hcalm) (List.IsPrefix.trans ?_ hsent)
    exact List.IsPrefix.filterMap _ ⟨later, hsplit⟩
  have hrecorded : hop.recorded = hop.sent := by
    obtain ⟨-, -, hpending⟩ := hrun hop.arrivals List.prefix_rfl
    exact Store.recordedSince_of_append hpending
  refine ⟨hrecorded, hsent, hop.node.store.revision, ?_, ?_⟩
  · rintro t ⟨earlier, hprefix, rfl⟩
    obtain ⟨happroaches, hgrows, -⟩ := hrun earlier hprefix
    exact ⟨happroaches, hgrows⟩
  · show hop.recorded <+: _
    rw [hrecorded]
    exact hsent

lemma Relays.chain {source : Source} (h : x.Relays source)
    (hplain : ∀ c ∈ x.changes, c.HasPlainVersion) {hops : List Hop} (hchain : Chain source hops) :
    ∀ hop ∈ hops, hop.recorded = hop.sent ∧
      hop.sent <+: x.changes.filter (Change.isAbove hop.node.store.revision) := by
  induction hops generalizing source with
  | nil => simp
  | cons first rest ih =>
    obtain ⟨hattached, hrest⟩ := hchain
    obtain ⟨hrecorded, hsent, hrelays⟩ := h.attached hattached hplain
    intro hop hmem
    rcases List.mem_cons.mp hmem with rfl | hlater
    · exact ⟨hrecorded, hsent⟩
    · exact ih hrelays hrest hop hlater

/-- Every recorded change was made at one moment of the run, and leads on from every moment with the
version before it. -/
lemma leads_of_mem {c : Change} (hc : c ∈ x.changes) :
    (∃ s, x.source.passes s ∧ c.version = some (s.revision + 1)) ∧
      ∀ s, x.source.passes s → c.version = some (s.revision + 1) → ∃ u, Leads s u c := by
  constructor
  · obtain ⟨cs, hcommits, hmade⟩ := Node.after_commits x.calm
    have hchanges : x.changes = cs := hcommits.recordedSince x.recording
    rw [hchanges] at hc
    obtain ⟨before, e, rest, now, hsplit, hstep⟩ := hmade c hc
    exact ⟨_, ⟨before, e :: rest, hsplit, rfl⟩, hstep.version_eq.2⟩
  · intro s hs hnext
    have habove : c ∈ x.changes.filter (Change.isAbove s.revision) := by
      rw [List.mem_filter]
      exact ⟨hc, by simp [Change.isAbove, hnext]⟩
    exact (passes_approaches hs).1.leads_of_mem habove hnext

/-- Replicas of replicas carry the stream of the master. -/
structure CarriesStream (x : RelayedRun) : Prop where
  /-- Every recorded change was made where the master had the version before it. -/
  made : ∀ c ∈ x.changes, ∃ s, x.source.passes s ∧ c.version = some (s.revision + 1)
  /-- A replica that is there too, and records, records exactly that change when it gets it. -/
  replayed : ∀ c ∈ x.changes, ∀ s, x.source.passes s → c.version = some (s.revision + 1) →
    ∀ (replica : Node) (around : Surroundings) (session : Session) (envelope : Bytes),
      Alike s replica.store → replica.store.revision = s.revision →
      replica.store.journal.recording → session.authenticated → c.encode = .ok envelope →
        (replica.dispatch around session (replayRequest envelope)).1 = .ok ∧
          replica.store.recordedSince
            (replica.dispatch around session (replayRequest envelope)).2.1.store = [c]
  /-- Every replica of a chain records what it is sent, which is what the master recorded above the
  version of its copy, in that order. -/
  chained : ∀ hops, Chain x.source hops → ∀ hop ∈ hops, hop.recorded = hop.sent ∧
    hop.sent <+: x.changes.filter (Change.isAbove hop.node.store.revision)

/-- **Replicas of replicas carry the stream of the master**, as long as its versions stay below
2^63. -/
theorem carries_stream (x : RelayedRun) (hbound : x.final.store.revision < 2 ^ 63) :
    x.CarriesStream := by
  have hplain := hasPlainVersion hbound
  constructor
  · intro c hc
    exact (leads_of_mem hc).1
  · intro c hc s hs hnext replica around session envelope halike hversion hrecording
      hauthenticated hencode
    obtain ⟨u, hu⟩ := (leads_of_mem hc).2 s hs hnext
    obtain ⟨hreply, -, -, -, hpending⟩ := Node.delivered_leads around hu halike hversion
      (hplain c hc) hencode hauthenticated
    rw [hrecording, if_pos rfl] at hpending
    exact ⟨hreply, Store.recordedSince_of_append hpending⟩
  · intro hops hchain
    exact x.relays_source.chain hplain hchain

/-! ### Two runs -/

/-- The change that takes three away, as it is recorded. -/
def loweringChange : Change :=
  ⟨"0", "incrby", [[0x6B], [0x2D, 0x33]], some 3⟩

/-- One is added to a string, and three are taken away. -/
def countingRelay : RelayedRun where
  master := CopiedRun.countingRun.master
  events := [.serve .alone (.new true) ⟨"incr", [[0x6B]]⟩,
    .serve .alone (.new true) ⟨"decrby", [[0x6B], [0x33]]⟩]
  recording := by decide +kernel
  calm := ⟨rfl, rfl, trivial⟩

/-- A replica with a copy of the store before both changes. -/
def firstHop : Hop where
  node := (Node.new Config.default (Directory.empty []) 0).withStore
    { CopiedRun.countingStore with authority := false }
  arrivals := [.deliver .alone (.new true) CopiedRun.countingChange CopiedRun.countingEnvelope,
    .deliver .alone (.new true) loweringChange (loweringChange.encode.toOption.getD [])]

/-- A replica of that one with a copy of its store after the first change. -/
def secondHop : Hop where
  node := firstHop.node.received (firstHop.arrivals.take 1)
  arrivals := firstHop.arrivals.drop 1

/-- The second replica records the second change, as the master did. -/
theorem carries_stream_counting :
    countingRelay.final.store.revision < 2 ^ 63 ∧
      Chain countingRelay.source [firstHop, secondHop] ∧ secondHop.recorded = [loweringChange] := by
  have hbound : countingRelay.final.store.revision < 2 ^ 63 := by decide +kernel
  have hfirst : CopiedRun.countingChange.encode = .ok CopiedRun.countingEnvelope := by
    decide +kernel
  have hsecond : loweringChange.encode = .ok (loweringChange.encode.toOption.getD []) := by
    decide +kernel
  have hchain : Chain countingRelay.source [firstHop, secondHop] := by
    refine ⟨⟨?_, rfl, ?_, by decide +kernel⟩,
      ⟨?_, by decide +kernel, ?_, by decide +kernel⟩, trivial⟩
    · exact ⟨_, ⟨[], _, rfl, rfl⟩, .refl _, rfl⟩
    · exact ⟨⟨rfl, by decide +kernel, hfirst⟩, ⟨rfl, by decide +kernel, hsecond⟩, trivial⟩
    · have hmoment : firstHop.source.passes secondHop.node.store :=
        ⟨firstHop.arrivals.take 1, List.take_prefix _ _, rfl⟩
      exact ⟨secondHop.node.store, hmoment, .refl _, Eq.refl _⟩
    · exact ⟨⟨rfl, by decide +kernel, hsecond⟩, trivial⟩
  refine ⟨hbound, hchain, ?_⟩
  exact ((carries_stream countingRelay hbound).chained _ hchain secondHop (by simp)).1

/-- A store with the last version that travels as what it is, and that records. -/
def brinkStore : Store :=
  (Store.Action.setRecording true).run 0
    ((Store.Action.replace 0 0x7FFFFFFFFFFFFFFF CopiedRun.emptyCopy).run 0 (Store.new true))

/-- The change after it. -/
def brinkChange : Change :=
  ⟨"0", "set", [[0x61], [0x31]], some 0x8000000000000000⟩

/-- A string is written at that version. -/
def brinkRelay : RelayedRun where
  master := (Node.new { Config.default with authority := true } (Directory.empty []) 0).withStore
    brinkStore
  events := [.serve .alone (.new true) ⟨"set", [[0x61], [0x31]]⟩]
  recording := by decide +kernel
  calm := ⟨rfl, trivial⟩

/-- The bound is needed: a change with the version 2^63 is refused, because it is taken to be
negative. -/
theorem not_carries_stream_brink : ¬ brinkRelay.CarriesStream := by
  intro h
  have hmem : brinkChange ∈ brinkRelay.changes := by decide +kernel
  have hencode : brinkChange.encode = .ok (brinkChange.encode.toOption.getD []) := by
    decide +kernel
  have hnext : brinkChange.version = some (brinkStore.revision + 1) := by decide +kernel
  have hsame : brinkRelay.master.store.revision = brinkStore.revision := by decide +kernel
  obtain ⟨-, hrecorded⟩ := h.replayed brinkChange hmem brinkStore ⟨[], _, rfl, rfl⟩ hnext
    brinkRelay.master .alone (.new true) _ (.refl _) hsame (by decide +kernel) rfl hencode
  revert hrecorded
  decide +kernel

end RelayedRun

end ReplicatedStore
