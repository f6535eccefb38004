import ReplicatedStore.Node.Replication
import ReplicatedStore.Proofs.Store.Action

/-!
# Coordinating replicas

One task attaches replicas and delivers changes to them, while any number of others change the
store.  `Coordination.Step` is everything that can happen, cut where others may come in between:
after the copy of a replica was taken and before its link is entered, and after a change was taken
off the journal and before all links have it.

For every link, and for the replica that is being attached, the changes that still wait and that its
copy does not contain are exactly those up to the version of the store, in their order
(`Sound`, `Reachable.sound`).  Together with what was sent already these are all changes made since
the copy (`Told`), so a replica gets each of them once and in order until it loses its link
(`Reachable.nothing_lost`).
-/

namespace ReplicatedStore

/-- Does the change carry a version above the given one? -/
def Change.isAbove (version : Nat) (c : Change) : Bool :=
  c.version.any (version < ·)

/-- A node and what its task for replicas is at. -/
structure Coordination where
  /-- The node. -/
  node : Node
  /-- The replica that is being attached, and the version of its copy. -/
  attaching : Option (Address × Nat)
  /-- The change that was taken off the journal and is being delivered. -/
  delivering : Option Change
  /-- The version of the store at the start.  This and what follows is only remembered. -/
  start : Nat
  /-- All changes made since the start, recorded or not. -/
  made : List Change
  /-- The version of the copy that a replica was attached with last. -/
  copied : Address → Nat
  /-- The changes that were sent to a replica since then. -/
  sent : Address → List Change

namespace Coordination

/-- Is the task free for another request or change? -/
def isIdle (c : Coordination) : Prop :=
  c.attaching = none ∧ c.delivering = none

/-- The changes that are still to be sent to those replicas that need them. -/
def waiting (c : Coordination) : List Change :=
  c.delivering.toList ++ c.node.store.journal.pending

/-- Does a link, or the replica that is being attached, stand at the version? -/
def Carries (c : Coordination) (version : Nat) : Prop :=
  (∃ l ∈ c.node.links, l.version = version) ∨ ∃ replica, c.attaching = some (replica, version)

/-- The node once the link to a replica that does not answer is taken away. -/
def unlinked (n : Node) (replica : Address) : Node :=
  { n with links := n.links.filter fun l => l.replica ≠ replica }

/-- What is remembered once a replica took its copy, or did not. -/
def attached {α : Type} (replica : Address) (taken : Bool) (fresh : α) (old : Address → α) :
    Address → α :=
  fun a => if taken ∧ a = replica then fresh else old a

/-- What was sent to a replica once a change was, over the links that await it. -/
def afterSending (links : List Link) (change : Change) (old : Address → List Change) :
    Address → List Change :=
  fun a =>
    if links.any fun l => l.replica = a ∧ Node.Link.awaits l change then old a ++ [change]
    else old a

/-- One step of the task for replicas, or of the others beside it. -/
inductive Step : Coordination → Coordination → Prop where
  /-- Something else happens to the store, whatever the task is at. -/
  | work (c : Coordination) (now : Nat) (a : Store.Action) (h : a.isWork) :
    Step c { c with
      node := c.node.withStore (a.run now c.node.store)
      made := c.made ++ a.changes now c.node.store }
  /-- A replica is to be attached whose link answers. -/
  | keepLink (c : Coordination) (around : Surroundings) (replica : Address) (hidle : c.isIdle)
      (hlive : (c.node.link? replica).isSome ∧ around.answers replica) :
    Step c c
  /-- A replica is to be attached: recording is on and its copy taken. -/
  | startAttach (c : Coordination) (around : Surroundings) (replica : Address) (version : Nat)
      (data : Bytes) (started : Node) (hidle : c.isIdle)
      (hlive : ¬ ((c.node.link? replica).isSome ∧ around.answers replica))
      (h : (unlinked c.node replica).startAttach around = (.ok (version, data), started)) :
    Step c { c with node := started, attaching := some (replica, version) }
  /-- A replica is to be attached, and its copy cannot be encoded. -/
  | failAttach (c : Coordination) (around : Surroundings) (replica : Address)
      (fault : FormatError) (started : Node) (hidle : c.isIdle)
      (hlive : ¬ ((c.node.link? replica).isSome ∧ around.answers replica))
      (h : (unlinked c.node replica).startAttach around = (.error fault, started)) :
    Step c { c with node := started.settleJournal }
  /-- The replica that is being attached took its copy, or did not. -/
  | finishAttach (c : Coordination) (replica : Address) (version : Nat) (taken : Bool)
      (h : c.attaching = some (replica, version)) :
    Step c { c with
      node := c.node.finishAttach replica version taken
      attaching := none
      copied := attached replica taken version c.copied
      sent := attached replica taken [] c.sent }
  /-- The change that has waited longest is taken off the journal. -/
  | startDelivery (c : Coordination) (change : Change) (rest : List Change) (hidle : c.isIdle)
      (h : c.node.store.journal.pending = change :: rest) :
    Step c { c with
      node := c.node.withStore
        { c.node.store with journal := { c.node.store.journal with pending := rest } }
      delivering := some change }
  /-- It is sent over the links that await it, where `takes` tells which replicas take it. -/
  | finishDelivery (c : Coordination) (change : Change) (takes : Address → Bool)
      (h : c.delivering = some change) :
    Step c { c with
      node := c.node.deliver change takes
      delivering := none
      sent := afterSending c.node.links change c.sent }

/-- What a node becomes that starts without replicas, and does not record yet. -/
inductive Reachable : Coordination → Prop where
  /-- The start. -/
  | start (n : Node) (copied : Address → Nat) (sent : Address → List Change)
      (hlinks : n.links = []) (hjournal : n.store.journal = ⟨false, []⟩) :
    Reachable ⟨n, none, none, n.store.revision, [], copied, sent⟩
  /-- One more step. -/
  | step {c d : Coordination} (h : Reachable c) (hstep : Step c d) : Reachable d

/-! ## The queue -/

/-- Of the changes that wait, those above the version are all up to the version of the store. -/
def Follows (c : Coordination) (version : Nat) : Prop :=
  version ≤ c.node.store.revision ∧
    (Store.versionsOf c.waiting).filter (version < ·) =
      Store.versionsBetween version c.node.store.revision

/-- What holds of the queue and the links between any two steps. -/
structure Sound (c : Coordination) : Prop where
  /-- Nothing waits that was not made. -/
  waiting_le : ∀ v ∈ Store.versionsOf c.waiting, v ≤ c.node.store.revision
  /-- Every link has before it exactly what it needs. -/
  link_follows : ∀ l ∈ c.node.links, c.Follows l.version
  /-- So has the replica that is being attached. -/
  copy_follows : ∀ replica version, c.attaching = some (replica, version) → c.Follows version
  /-- The journal records exactly while there is a link or one is being made. -/
  recording_iff : c.node.store.journal.recording = true ↔
    c.node.links ≠ [] ∨ c.attaching ≠ none
  /-- A replica has one link. -/
  link_unique : ∀ l ∈ c.node.links, ∀ m ∈ c.node.links, l.replica = m.replica → l = m
  /-- The replica that is being attached has none. -/
  link_fresh : ∀ replica version, c.attaching = some (replica, version) →
    ∀ l ∈ c.node.links, l.replica ≠ replica
  /-- The task does one thing at a time. -/
  one_at_a_time : c.attaching = none ∨ c.delivering = none

lemma recording_of_links {c : Coordination} (h : c.Sound) {l : Link} (hl : l ∈ c.node.links) :
    c.node.store.journal.recording = true :=
  h.recording_iff.mpr (.inl (List.ne_nil_of_mem hl))

lemma Follows.congr {c d : Coordination} {version : Nat} (h : c.Follows version)
    (hversion : d.node.store.revision = c.node.store.revision) (hwaiting : d.waiting = c.waiting) :
    d.Follows version := by
  rw [Follows, hversion, hwaiting]
  exact h

/-- A copy of the store as it is now needs nothing of what waits. -/
lemma follows_current {c : Coordination} (h : ∀ v ∈ Store.versionsOf c.waiting,
    v ≤ c.node.store.revision) : c.Follows c.node.store.revision := by
  refine ⟨Nat.le_refl _, ?_⟩
  rw [Store.versionsBetween_self, List.filter_eq_nil_iff]
  intro v hv
  have := h v hv
  simp only [decide_eq_true_eq]
  omega

/-! ### Settling the journal -/

section Settle

variable (n : Node)

@[simp] lemma links_settleJournal : n.settleJournal.links = n.links := by
  unfold Node.settleJournal; split <;> rfl

@[simp] lemma revision_settleJournal : n.settleJournal.store.revision = n.store.revision := by
  unfold Node.settleJournal; split <;> rfl

@[simp] lemma pending_settleJournal :
    n.settleJournal.store.journal.pending = n.store.journal.pending := by
  unfold Node.settleJournal; split <;> rfl

lemma recording_settleJournal (h : n.store.journal.recording = true) :
    n.settleJournal.store.journal.recording = true ↔ n.links ≠ [] := by
  unfold Node.settleJournal
  cases hlinks : n.links with
  | nil => simp [Node.withStore, Store.setRecording]
  | cons l rest => simp [h]

lemma recording_settleJournal_of_off (h : n.store.journal.recording = false) :
    n.settleJournal.store.journal.recording = false := by
  unfold Node.settleJournal
  split
  · rfl
  · exact h

lemma settleJournal_of_links {n : Node} (h : n.links ≠ []) : n.settleJournal = n := by
  unfold Node.settleJournal
  rw [if_neg]
  simpa using h

end Settle

/-! ### Steps of others -/

/-- What follows a version still does after more changes were recorded. -/
lemma Follows.work {c : Coordination} {version : Nat} (h : c.Follows version)
    (hrecording : c.node.store.journal.recording = true) {t : Store} {changes : List Change}
    (hcommits : c.node.store.Commits changes t) (made : List Change) :
    Follows { c with node := c.node.withStore t, made } version := by
  obtain ⟨hle, hqueue⟩ := h
  have hgrows := hcommits.revision_le
  refine ⟨Nat.le_trans hle hgrows, ?_⟩
  have hwaiting : waiting { c with node := c.node.withStore t, made } = c.waiting ++ changes := by
    simp [waiting, Node.withStore, hcommits.pending, hrecording]
  have hnew : (Store.versionsOf changes).filter (version < ·) = Store.versionsOf changes := by
    rw [List.filter_eq_self, hcommits.versions]
    intro v hv
    rw [Store.mem_versionsBetween] at hv
    simp only [decide_eq_true_eq]
    omega
  rw [hwaiting, Store.versionsOf_append, List.filter_append, hqueue, hnew, hcommits.versions]
  exact Store.versionsBetween_append hle hgrows

lemma Sound.work {c : Coordination} (h : c.Sound) (now : Nat) {a : Store.Action}
    (ha : a.isWork) (made : List Change) :
    Sound { c with node := c.node.withStore (a.run now c.node.store), made } := by
  have hcommits := Store.Action.commits ha now c.node.store
  constructor
  · intro v hv
    have hgrows := hcommits.revision_le
    have hv' : v ∈ Store.versionsOf (c.waiting ++
        if c.node.store.journal.recording then a.changes now c.node.store else []) := by
      simpa [waiting, Node.withStore, hcommits.pending] using hv
    rw [Store.versionsOf_append, List.mem_append] at hv'
    rcases hv' with hold | hnew
    · exact Nat.le_trans (h.waiting_le v hold) hgrows
    · split at hnew
      · rw [hcommits.versions, Store.mem_versionsBetween] at hnew
        exact hnew.2
      · simp at hnew
  · intro l hl
    exact (h.link_follows l hl).work (recording_of_links h hl) hcommits made
  · intro replica version hat
    have hrecording := h.recording_iff.mpr (.inr (by rw [hat]; simp))
    exact (h.copy_follows replica version hat).work hrecording hcommits made
  · show (a.run now c.node.store).journal.recording = true ↔ _
    rw [hcommits.recording]
    exact h.recording_iff
  · exact h.link_unique
  · exact h.link_fresh
  · exact h.one_at_a_time

/-! ### Attaching -/

lemma mem_unlinked {n : Node} {replica : Address} {l : Link} :
    l ∈ (unlinked n replica).links ↔ l ∈ n.links ∧ l.replica ≠ replica := by
  simp [unlinked]

/-- The first step of attaching turns recording on and leaves all else as it was. -/
lemma startAttach_eq (n : Node) (around : Surroundings) :
    (n.startAttach around).2 = n.withStore (n.store.setRecording true) := rfl

lemma Sound.startAttach {c : Coordination} (h : c.Sound) (replica : Address)
    (around : Surroundings) (hidle : c.isIdle) :
    Sound { c with
      node := ((unlinked c.node replica).startAttach around).2
      attaching := some (replica, c.node.store.revision) } := by
  rw [startAttach_eq]
  constructor
  · exact h.waiting_le
  · intro l hl
    exact (h.link_follows l (mem_unlinked.mp hl).1).congr rfl rfl
  · intro r version hat
    obtain ⟨rfl, rfl⟩ : replica = r ∧ c.node.store.revision = version := by simpa using hat
    exact (follows_current h.waiting_le).congr rfl rfl
  · simp [Node.withStore, Store.setRecording]
  · intro l hl m hm
    exact h.link_unique l (mem_unlinked.mp hl).1 m (mem_unlinked.mp hm).1
  · intro r version hat l hl
    obtain ⟨rfl, -⟩ : replica = r ∧ c.node.store.revision = version := by simpa using hat
    exact (mem_unlinked.mp hl).2
  · exact .inr hidle.2

/-- Giving up on a replica leaves the others as they were. -/
lemma Sound.giveUp {c : Coordination} (h : c.Sound)
    (hrecording : c.node.store.journal.recording = true) :
    Sound { c with node := c.node.settleJournal, attaching := none } := by
  have hwaiting : waiting { c with node := c.node.settleJournal, attaching := none } =
      c.waiting := by simp [waiting]
  constructor
  · intro v hv
    rw [hwaiting] at hv
    simpa using h.waiting_le v hv
  · intro l hl
    exact (h.link_follows l (by simpa using hl)).congr (by simp) hwaiting
  · intro r version hat
    cases hat
  · simpa using recording_settleJournal c.node hrecording
  · simpa using h.link_unique
  · intro r version hat
    cases hat
  · exact .inl rfl

lemma Sound.attached {c : Coordination} (h : c.Sound) {replica : Address} {version : Nat}
    (hat : c.attaching = some (replica, version)) :
    Sound { c with
      node := { c.node with links := c.node.links ++ [⟨replica, version⟩] }
      attaching := none } := by
  have hmem : ∀ l, l ∈ c.node.links ++ [⟨replica, version⟩] ↔
      l ∈ c.node.links ∨ l = ⟨replica, version⟩ := by simp
  constructor
  · exact h.waiting_le
  · intro l hl
    rcases (hmem l).mp hl with hold | rfl
    · exact (h.link_follows l hold).congr rfl rfl
    · exact (h.copy_follows replica version hat).congr rfl rfl
  · intro r v hnone
    cases hnone
  · simpa [hat] using h.recording_iff
  · intro l hl m hm hsame
    rcases (hmem l).mp hl with hold | rfl
    · rcases (hmem m).mp hm with hold' | rfl
      · exact h.link_unique l hold m hold' hsame
      · exact absurd hsame (h.link_fresh replica version hat l hold)
    · rcases (hmem m).mp hm with hold' | rfl
      · exact absurd hsame.symm (h.link_fresh replica version hat m hold')
      · rfl
  · intro r v hnone
    cases hnone
  · exact .inl rfl

lemma version_startAttach {n started : Node} {around : Surroundings} {version : Nat}
    {data : Bytes} (h : n.startAttach around = (.ok (version, data), started)) :
    version = n.store.revision := by
  have hdump : (n.store.setRecording true).dump around.now around.wall = .ok (version, data) :=
    congrArg Prod.fst h
  unfold Store.dump at hdump
  cases hencode : ((n.store.setRecording true).snapshot around.now around.wall).encode with
  | error fault =>
    rw [hencode] at hdump
    cases hdump
  | ok encoded =>
    rw [hencode] at hdump
    cases hdump
    rfl

lemma Sound.finishAttach {c : Coordination} (h : c.Sound) {replica : Address} {version : Nat}
    (hat : c.attaching = some (replica, version)) (taken : Bool) :
    Sound { c with node := c.node.finishAttach replica version taken, attaching := none } := by
  unfold Node.finishAttach
  cases taken with
  | false => exact h.giveUp (h.recording_iff.mpr (.inr (by rw [hat]; simp)))
  | true =>
    rw [if_pos rfl, settleJournal_of_links (by simp)]
    exact h.attached hat

/-! ### Delivering -/

/-- What a link is after a change was sent: it did not await it, or the replica took it. -/
lemma send?_eq_some {l m : Link} {change : Change} {takes : Address → Bool}
    (h : Node.Link.send? l change takes = some m) :
    (Node.Link.awaits l change = false ∧ m = l) ∨
      (Node.Link.awaits l change = true ∧ takes l.replica ∧ m = Node.Link.advance l change) := by
  unfold Node.Link.send? at h
  cases hawaits : Node.Link.awaits l change with
  | false =>
    rw [hawaits] at h
    exact .inl ⟨rfl, (Option.some.inj h).symm⟩
  | true =>
    rw [hawaits] at h
    simp only [Bool.not_true, Bool.false_eq_true, if_false] at h
    split at h
    · rename_i htakes
      exact .inr ⟨rfl, htakes, (Option.some.inj h).symm⟩
    · cases h

/-- Links are left after a delivery only if the change can be encoded, and each was one before. -/
lemma sent_of_mem_deliver {n : Node} {change : Change} {takes : Address → Bool} {m : Link}
    (h : m ∈ (n.deliver change takes).links) :
    ∃ envelope, change.encode = .ok envelope ∧ ∃ l ∈ n.links,
      (Node.Link.awaits l change = false ∧ m = l) ∨
        (Node.Link.awaits l change = true ∧ takes l.replica ∧ m = Node.Link.advance l change) := by
  unfold Node.deliver at h
  rw [links_settleJournal] at h
  cases hencode : change.encode with
  | error fault =>
    rw [hencode] at h
    cases h
  | ok envelope =>
    rw [hencode] at h
    obtain ⟨l, hl, hsend⟩ := List.mem_filterMap.mp h
    exact ⟨envelope, rfl, l, hl, send?_eq_some hsend⟩

/-- Every link after a delivery was one before it. -/
lemma mem_links_deliver {n : Node} {change : Change} {takes : Address → Bool} {m : Link}
    (h : m ∈ (n.deliver change takes).links) :
    ∃ l ∈ n.links, m.replica = l.replica ∧
      ((Node.Link.awaits l change = false ∧ m = l) ∨
        (Node.Link.awaits l change = true ∧ m = Node.Link.advance l change)) := by
  obtain ⟨-, -, l, hl, hcases⟩ := sent_of_mem_deliver h
  rcases hcases with ⟨hpassed, rfl⟩ | ⟨hawaits, -, rfl⟩
  · exact ⟨m, hl, rfl, .inl ⟨hpassed, rfl⟩⟩
  · exact ⟨l, hl, rfl, .inr ⟨hawaits, rfl⟩⟩

/-- A link that is sent a versioned change stands at the version before it. -/
lemma Follows.head {c : Coordination} {version v : Nat} {change : Change} {rest : List Change}
    (h : c.Follows version) (hwaiting : c.waiting = change :: rest)
    (hchange : change.version = some v) (hv : version < v) :
    v = version + 1 ∧ version < c.node.store.revision ∧
      (Store.versionsOf rest).filter (version < ·) =
        Store.versionsBetween (version + 1) c.node.store.revision := by
  obtain ⟨hle, hqueue⟩ := h
  rw [hwaiting, Store.versionsOf, List.filterMap_cons_some hchange,
    List.filter_cons_of_pos (by simpa using hv)] at hqueue
  exact Store.versionsBetween_eq_cons hqueue

/-- A link that is not sent the change still has before it what it needs. -/
lemma Follows.skip {c d : Coordination} {l : Link} {change : Change} {rest : List Change}
    (h : c.Follows l.version) (hwaiting : c.waiting = change :: rest)
    (hawaits : Node.Link.awaits l change = false)
    (hversion : d.node.store.revision = c.node.store.revision) (hafter : d.waiting = rest) :
    d.Follows l.version := by
  obtain ⟨hle, hqueue⟩ := h
  rw [Follows, hversion, hafter]
  refine ⟨hle, ?_⟩
  unfold Node.Link.awaits at hawaits
  cases hchange : change.version with
  | none =>
    rw [hchange] at hawaits
    cases hawaits
  | some v =>
    rw [hchange] at hawaits
    rwa [hwaiting, Store.versionsOf, List.filterMap_cons_some hchange,
      List.filter_cons_of_neg (by simpa using hawaits)] at hqueue

/-- So has one that took it, at its new version. -/
lemma Follows.advance {c d : Coordination} {l : Link} {change : Change} {rest : List Change}
    (h : c.Follows l.version) (hwaiting : c.waiting = change :: rest)
    (hawaits : Node.Link.awaits l change = true)
    (hversion : d.node.store.revision = c.node.store.revision) (hafter : d.waiting = rest) :
    d.Follows (Node.Link.advance l change).version := by
  rw [Follows, hversion, hafter, Node.Link.advance]
  unfold Node.Link.awaits at hawaits
  cases hchange : change.version with
  | none =>
    obtain ⟨hle, hqueue⟩ := h
    refine ⟨hle, ?_⟩
    rwa [hwaiting, Store.versionsOf, List.filterMap_cons_none hchange] at hqueue
  | some v =>
    rw [hchange] at hawaits
    obtain ⟨rfl, hlt, hrest⟩ := h.head hwaiting hchange (by simpa using hawaits)
    refine ⟨hlt, ?_⟩
    -- Above the new version is what was above the old one, less the change itself.
    have hfilter : (Store.versionsOf rest).filter (l.version + 1 < ·) =
        ((Store.versionsOf rest).filter (l.version < ·)).filter (l.version + 1 < ·) := by
      rw [List.filter_filter]
      refine List.filter_congr fun v _ => ?_
      rw [← Bool.decide_and, decide_eq_decide]
      omega
    show (Store.versionsOf rest).filter (l.version + 1 < ·) =
      Store.versionsBetween (l.version + 1) c.node.store.revision
    rw [hfilter, hrest]
    exact Store.filter_versionsBetween (Nat.le_refl _) hlt

lemma Sound.startDelivery {c : Coordination} (h : c.Sound) {change : Change} {rest : List Change}
    (hidle : c.isIdle) (hpending : c.node.store.journal.pending = change :: rest) :
    Sound { c with
      node := c.node.withStore
        { c.node.store with journal := { c.node.store.journal with pending := rest } }
      delivering := some change } := by
  have hwaiting : c.waiting = change :: rest := by simp [waiting, hidle.2, hpending]
  constructor
  · intro v hv
    refine h.waiting_le v ?_
    rw [hwaiting]
    exact hv
  · exact fun l hl => (h.link_follows l hl).congr rfl hwaiting.symm
  · exact fun r version hat => (h.copy_follows r version hat).congr rfl hwaiting.symm
  · exact h.recording_iff
  · exact h.link_unique
  · exact h.link_fresh
  · exact .inl hidle.1

section Deliver

variable (n : Node) (change : Change) (takes : Address → Bool)

@[simp] lemma revision_deliver : (n.deliver change takes).store.revision = n.store.revision := by
  unfold Node.deliver
  rw [revision_settleJournal]

@[simp] lemma pending_deliver :
    (n.deliver change takes).store.journal.pending = n.store.journal.pending := by
  unfold Node.deliver
  rw [pending_settleJournal]

end Deliver

lemma waiting_finishDelivery {c : Coordination} {change : Change}
    (h : c.delivering = some change) :
    c.waiting = change :: c.node.store.journal.pending := by
  rw [waiting, h]
  rfl

lemma Sound.recording_deliver {c : Coordination} (h : c.Sound) {change : Change}
    (hdelivering : c.delivering = some change) (takes : Address → Bool) :
    (c.node.deliver change takes).store.journal.recording = true ↔
      (c.node.deliver change takes).links ≠ [] := by
  by_cases hlinks : c.node.links = []
  · have hnone : (c.node.deliver change takes).links = [] := by
      rw [List.eq_nil_iff_forall_not_mem]
      intro m hm
      obtain ⟨l, hl, -⟩ := mem_links_deliver hm
      rw [hlinks] at hl
      cases hl
    have hattaching : c.attaching = none := by
      rcases h.one_at_a_time with hat | hat
      · exact hat
      · rw [hdelivering] at hat
        cases hat
    have hoff : c.node.store.journal.recording = false := by
      rw [Bool.eq_false_iff, ne_eq, h.recording_iff, hlinks, hattaching]
      simp
    have hkept : (c.node.deliver change takes).store.journal.recording = false :=
      recording_settleJournal_of_off _ hoff
    simp [hnone, hkept]
  · have hon : c.node.store.journal.recording = true := h.recording_iff.mpr (.inl hlinks)
    unfold Node.deliver
    rw [links_settleJournal]
    exact recording_settleJournal _ hon

lemma Sound.finishDelivery {c : Coordination} (h : c.Sound) {change : Change}
    (hdelivering : c.delivering = some change) (takes : Address → Bool) (d : Coordination)
    (hnode : d.node = c.node.deliver change takes) (hat : d.attaching = c.attaching)
    (hdone : d.delivering = none) : d.Sound := by
  have hbefore := waiting_finishDelivery hdelivering
  have hafter : d.waiting = c.node.store.journal.pending := by
    rw [waiting, hdone, hnode, pending_deliver]
    rfl
  have hversion : d.node.store.revision = c.node.store.revision := by
    rw [hnode, revision_deliver]
  have hattaching : d.attaching = none := by
    rw [hat]
    rcases h.one_at_a_time with hidle | hidle
    · exact hidle
    · rw [hdelivering] at hidle
      cases hidle
  constructor
  · intro v hv
    rw [hversion]
    refine h.waiting_le v ?_
    rw [hafter] at hv
    rw [hbefore, ← List.singleton_append, Store.versionsOf_append]
    exact List.mem_append_right _ hv
  · intro m hm
    rw [hnode] at hm
    obtain ⟨l, hl, -, hcases⟩ := mem_links_deliver hm
    have hfollows := h.link_follows l hl
    rcases hcases with ⟨hawaits, rfl⟩ | ⟨hawaits, rfl⟩
    · exact hfollows.skip hbefore hawaits hversion hafter
    · exact hfollows.advance hbefore hawaits hversion hafter
  · intro r version hsome
    rw [hattaching] at hsome
    cases hsome
  · rw [hattaching, hnode, h.recording_deliver hdelivering]
    simp
  · intro l hl m hm hsame
    rw [hnode] at hl hm
    obtain ⟨l₀, hl₀, hreplica, hl₁⟩ := mem_links_deliver hl
    obtain ⟨m₀, hm₀, hreplica', hm₁⟩ := mem_links_deliver hm
    obtain rfl := h.link_unique l₀ hl₀ m₀ hm₀ (by rw [← hreplica, ← hreplica', hsame])
    rcases hl₁ with ⟨hawaits, rfl⟩ | ⟨hawaits, rfl⟩
    · rcases hm₁ with ⟨-, rfl⟩ | ⟨hnot, -⟩
      · rfl
      · rw [hawaits] at hnot
        cases hnot
    · rcases hm₁ with ⟨hnot, -⟩ | ⟨-, rfl⟩
      · rw [hawaits] at hnot
        cases hnot
      · rfl
  · intro r version hsome
    rw [hattaching] at hsome
    cases hsome
  · exact .inl hattaching

/-! ### Every step -/

lemma sound_start {n : Node} (hlinks : n.links = []) (hjournal : n.store.journal = ⟨false, []⟩)
    (copied : Address → Nat) (sent : Address → List Change) :
    Sound ⟨n, none, none, n.store.revision, [], copied, sent⟩ := by
  constructor
  · simp [waiting, hjournal]
  · simp [hlinks]
  · intro replica version h
    cases h
  · simp [hjournal, hlinks]
  · simp [hlinks]
  · intro replica version h
    cases h
  · exact .inl rfl

lemma Sound.remember {c : Coordination} (h : c.Sound) (made : List Change)
    (copied : Address → Nat) (sent : Address → List Change) :
    Sound { c with made, copied, sent } :=
  ⟨h.waiting_le, h.link_follows, h.copy_follows, h.recording_iff, h.link_unique, h.link_fresh,
    h.one_at_a_time⟩

lemma Sound.step {c d : Coordination} (h : c.Sound) (hstep : Step c d) : d.Sound := by
  cases hstep with
  | work now a ha => exact h.work now ha _
  | keepLink around replica hidle hlive => exact h
  | startAttach around replica version data started hidle hlive hstart =>
    have hsound := h.startAttach replica around hidle
    rw [hstart] at hsound
    rw [version_startAttach hstart]
    exact hsound
  | failAttach around replica fault started hidle hlive hstart =>
    have hsound := h.startAttach replica around hidle
    rw [hstart] at hsound
    have hdone := hsound.giveUp (hsound.recording_iff.mpr (.inr (by simp)))
    have hkept : ({ c with node := started.settleJournal } : Coordination) =
        { c with node := started.settleJournal, attaching := none } := by rw [hidle.1]
    rw [hkept]
    exact hdone
  | finishAttach replica version taken hat => exact (h.finishAttach hat taken).remember _ _ _
  | startDelivery change rest hidle hpending => exact h.startDelivery hidle hpending
  | finishDelivery change takes hdelivering =>
    exact h.finishDelivery hdelivering takes _ rfl rfl rfl

lemma Reachable.sound {c : Coordination} (h : Reachable c) : c.Sound := by
  induction h with
  | start n copied sent hlinks hjournal => exact sound_start hlinks hjournal copied sent
  | step _ hstep ih => exact ih.step hstep

/-! ## What was sent -/

/-- The changes of a list that carry a version. -/
def versioned (changes : List Change) : List Change :=
  changes.filter fun c => c.version.isSome

/-- What is remembered agrees with the queue and the links. -/
structure Told (c : Coordination) : Prop where
  start_le : c.start ≤ c.node.store.revision
  /-- The changes made raised the version one by one. -/
  made : Store.versionsOf c.made = Store.versionsBetween c.start c.node.store.revision
  /-- A link was sent what was made since its copy, but for what waits. -/
  link : ∀ l ∈ c.node.links, c.start ≤ c.copied l.replica ∧ c.copied l.replica ≤ l.version ∧
    versioned (c.sent l.replica) ++ c.waiting.filter (Change.isAbove l.version) =
      c.made.filter (Change.isAbove (c.copied l.replica))
  /-- What was made since the copy of a replica that is being attached waits. -/
  copy : ∀ replica version, c.attaching = some (replica, version) → c.start ≤ version ∧
    c.waiting.filter (Change.isAbove version) = c.made.filter (Change.isAbove version)

lemma isAbove_iff {version : Nat} {change : Change} :
    change.isAbove version = true ↔ ∃ v, change.version = some v ∧ version < v := by
  unfold Change.isAbove
  cases change.version <;> simp

/-- Of changes whose versions are not above a version, none is. -/
lemma filter_isAbove_eq_nil {version : Nat} {changes : List Change}
    (h : ∀ v ∈ Store.versionsOf changes, v ≤ version) :
    changes.filter (Change.isAbove version) = [] := by
  rw [List.filter_eq_nil_iff]
  intro change hchange habove
  obtain ⟨v, hv, hlt⟩ := isAbove_iff.mp habove
  have := h v (List.mem_filterMap.mpr ⟨change, hchange, hv⟩)
  omega

lemma versionsOf_filter_isAbove (version : Nat) (changes : List Change) :
    Store.versionsOf (changes.filter (Change.isAbove version)) =
      (Store.versionsOf changes).filter (version < ·) := by
  induction changes with
  | nil => rfl
  | cons change rest ih =>
    unfold Store.versionsOf at ih ⊢
    cases hv : change.version with
    | none =>
      rw [List.filterMap_cons_none hv, List.filter_cons_of_neg (by simp [Change.isAbove, hv]), ih]
    | some v =>
      rw [List.filterMap_cons_some hv]
      by_cases hlt : version < v
      · rw [List.filter_cons_of_pos (by simp [Change.isAbove, hv, hlt]),
          List.filter_cons_of_pos (by simpa using hlt), List.filterMap_cons_some hv, ih]
      · rw [List.filter_cons_of_neg (by simp [Change.isAbove, hv, hlt]),
          List.filter_cons_of_neg (by simpa using hlt), ih]

lemma versionsOf_versioned (changes : List Change) :
    Store.versionsOf (versioned changes) = Store.versionsOf changes := by
  unfold Store.versionsOf versioned
  induction changes with
  | nil => rfl
  | cons change rest ih =>
    cases hv : change.version with
    | none =>
      rw [List.filter_cons_of_neg (by simp [hv]), List.filterMap_cons_none hv, ih]
    | some v =>
      rw [List.filter_cons_of_pos (by simp [hv]), List.filterMap_cons_some hv,
        List.filterMap_cons_some hv, ih]

/-- All changes that work makes are above the version of a link. -/
lemma filter_isAbove_changes {s t : Store} {changes : List Change} (h : s.Commits changes t)
    {version : Nat} (hle : version ≤ s.revision) :
    changes.filter (Change.isAbove version) = versioned changes := by
  refine List.filter_congr fun change hchange => ?_
  cases hv : change.version with
  | none => simp [Change.isAbove, hv]
  | some v =>
    have hmem : v ∈ Store.versionsOf changes := List.mem_filterMap.mpr ⟨change, hchange, hv⟩
    rw [h.versions, Store.mem_versionsBetween] at hmem
    simp only [Change.isAbove, hv, Option.any_some, Option.isSome_some, decide_eq_true_eq]
    omega

lemma told_start {n : Node} (hlinks : n.links = []) (copied : Address → Nat)
    (sent : Address → List Change) :
    Told ⟨n, none, none, n.store.revision, [], copied, sent⟩ := by
  constructor
  · exact Nat.le_refl _
  · simp
  · simp [hlinks]
  · intro replica version h
    cases h

lemma Told.work {c : Coordination} (h : c.Told) (hs : c.Sound) (now : Nat) {a : Store.Action}
    (ha : a.isWork) :
    Told { c with
      node := c.node.withStore (a.run now c.node.store)
      made := c.made ++ a.changes now c.node.store } := by
  have hcommits := Store.Action.commits ha now c.node.store
  have hgrows := hcommits.revision_le
  have hstart := h.start_le
  -- Both sides grow by the same changes, because the journal records while anyone needs them.
  have hwaiting : c.node.store.journal.recording = true →
      waiting { c with
        node := c.node.withStore (a.run now c.node.store)
        made := c.made ++ a.changes now c.node.store } =
      c.waiting ++ a.changes now c.node.store := by
    intro hrecording
    simp [waiting, Node.withStore, hcommits.pending, hrecording]
  constructor
  · exact Nat.le_trans hstart hgrows
  · show Store.versionsOf (c.made ++ _) = _
    rw [Store.versionsOf_append, h.made, hcommits.versions]
    exact Store.versionsBetween_append hstart hgrows
  · intro l hl
    obtain ⟨hfirst, hcopied, hsent⟩ := h.link l hl
    have hle := (hs.link_follows l hl).1
    refine ⟨hfirst, hcopied, ?_⟩
    rw [hwaiting (recording_of_links hs hl), List.filter_append, List.filter_append,
      ← List.append_assoc, hsent, filter_isAbove_changes hcommits hle,
      filter_isAbove_changes hcommits (Nat.le_trans hcopied hle)]
  · intro replica version hat
    obtain ⟨hfirst, hcopy⟩ := h.copy replica version hat
    have hle := (hs.copy_follows replica version hat).1
    refine ⟨hfirst, ?_⟩
    rw [hwaiting (hs.recording_iff.mpr (.inr (by rw [hat]; simp))), List.filter_append,
      List.filter_append, hcopy]

/-- Fewer links, with the store and the queue as they were. -/
lemma Told.fewer {c d : Coordination} (h : c.Told) (hstart : d.start = c.start)
    (hmade : d.made = c.made) (hversion : d.node.store.revision = c.node.store.revision)
    (hwaiting : d.waiting = c.waiting)
    (hlinks : ∀ l ∈ d.node.links, l ∈ c.node.links ∧
      d.copied l.replica = c.copied l.replica ∧ d.sent l.replica = c.sent l.replica)
    (hcopy : ∀ replica version, d.attaching = some (replica, version) →
      c.start ≤ version ∧
        c.waiting.filter (Change.isAbove version) = c.made.filter (Change.isAbove version)) :
    d.Told where
  start_le := by
    rw [hstart, hversion]
    exact h.start_le
  made := by
    rw [hmade, hstart, hversion]
    exact h.made
  link := by
    intro l hl
    obtain ⟨hold, hcopied, hsent⟩ := hlinks l hl
    rw [hstart, hmade, hwaiting, hcopied, hsent]
    exact h.link l hold
  copy := by
    rw [hstart, hmade, hwaiting]
    exact hcopy

lemma Told.startAttach {c : Coordination} (h : c.Told) (hs : c.Sound) (replica : Address)
    (around : Surroundings) :
    Told { c with
      node := ((unlinked c.node replica).startAttach around).2
      attaching := some (replica, c.node.store.revision) } := by
  refine h.fewer rfl rfl rfl rfl ?_ ?_
  · intro l hl
    rw [startAttach_eq] at hl
    exact ⟨(mem_unlinked.mp hl).1, rfl, rfl⟩
  · intro r version hat
    obtain ⟨rfl, rfl⟩ : replica = r ∧ c.node.store.revision = version := by simpa using hat
    refine ⟨h.start_le, ?_⟩
    rw [filter_isAbove_eq_nil hs.waiting_le, filter_isAbove_eq_nil]
    intro v hv
    rw [h.made, Store.mem_versionsBetween] at hv
    exact hv.2

lemma Told.giveUp {c : Coordination} (h : c.Told) :
    Told { c with node := c.node.settleJournal, attaching := none } := by
  refine h.fewer rfl rfl (by simp) (by simp [waiting]) ?_ ?_
  · intro l hl
    exact ⟨by simpa using hl, rfl, rfl⟩
  · intro r version hat
    cases hat

lemma Told.attached {c : Coordination} (h : c.Told) (hs : c.Sound) {replica : Address}
    {version : Nat} (hat : c.attaching = some (replica, version)) :
    Told { c with
      node := c.node.finishAttach replica version true
      attaching := none
      copied := attached replica true version c.copied
      sent := attached replica true [] c.sent } := by
  have hnode : c.node.finishAttach replica version true =
      { c.node with links := c.node.links ++ [⟨replica, version⟩] } := by
    unfold Node.finishAttach
    rw [if_pos rfl, settleJournal_of_links (by simp)]
  rw [hnode]
  constructor
  · exact h.start_le
  · exact h.made
  · intro l hl
    rcases List.mem_append.mp hl with hold | hnew
    · have hother : l.replica ≠ replica := hs.link_fresh replica version hat l hold
      have hcopied : Coordination.attached replica true version c.copied l.replica =
          c.copied l.replica := by simp [Coordination.attached, hother]
      have hsent : Coordination.attached replica true [] c.sent l.replica =
          c.sent l.replica := by simp [Coordination.attached, hother]
      dsimp only
      rw [hcopied, hsent]
      exact h.link l hold
    · obtain rfl : l = ⟨replica, version⟩ := by simpa using hnew
      obtain ⟨hfirst, hcopy⟩ := h.copy replica version hat
      have hcopied : Coordination.attached replica true version c.copied replica = version := by
        simp [Coordination.attached]
      have hsent : Coordination.attached replica true [] c.sent replica = [] := by
        simp [Coordination.attached]
      dsimp only
      rw [hcopied, hsent]
      exact ⟨hfirst, Nat.le_refl _, hcopy⟩
  · intro r v hnone
    cases hnone

lemma Told.finishAttach {c : Coordination} (h : c.Told) (hs : c.Sound) {replica : Address}
    {version : Nat} (hat : c.attaching = some (replica, version)) (taken : Bool) :
    Told { c with
      node := c.node.finishAttach replica version taken
      attaching := none
      copied := Coordination.attached replica taken version c.copied
      sent := Coordination.attached replica taken [] c.sent } := by
  cases taken with
  | false =>
    have hkept : ∀ {α : Type} (fresh : α) (old : Address → α),
        Coordination.attached replica false fresh old = old := by
      intro α fresh old
      funext a
      simp [Coordination.attached]
    rw [hkept, hkept]
    exact h.giveUp
  | true => exact h.attached hs hat

lemma Told.startDelivery {c : Coordination} (h : c.Told) {change : Change} {rest : List Change}
    (hidle : c.isIdle) (hpending : c.node.store.journal.pending = change :: rest) :
    Told { c with
      node := c.node.withStore
        { c.node.store with journal := { c.node.store.journal with pending := rest } }
      delivering := some change } := by
  refine h.fewer rfl rfl rfl ?_ ?_ h.copy
  · simp [waiting, Node.withStore, hidle.2, hpending]
  · exact fun l hl => ⟨hl, rfl, rfl⟩

/-- What a link awaits is sent to its replica, which has no other link. -/
lemma afterSending_of_mem {c : Coordination} (hs : c.Sound) {l : Link} (hl : l ∈ c.node.links)
    (change : Change) :
    afterSending c.node.links change c.sent l.replica =
      if Node.Link.awaits l change then c.sent l.replica ++ [change] else c.sent l.replica := by
  have hany : (c.node.links.any fun m =>
      decide (m.replica = l.replica ∧ Node.Link.awaits m change = true)) =
      Node.Link.awaits l change := by
    rw [Bool.eq_iff_iff, List.any_eq_true]
    constructor
    · rintro ⟨m, hm, hboth⟩
      obtain ⟨hsame, hawaits⟩ := of_decide_eq_true hboth
      rwa [← hs.link_unique m hm l hl hsame]
    · intro hawaits
      exact ⟨l, hl, decide_eq_true ⟨rfl, hawaits⟩⟩
  rw [afterSending, hany]

/-- A change that a link takes moves from what waits for it to what was sent to it. -/
lemma filter_isAbove_advance {c : Coordination} {l : Link} {change : Change} {rest : List Change}
    (h : c.Follows l.version) (hwaiting : c.waiting = change :: rest)
    (hawaits : Node.Link.awaits l change = true) :
    versioned [change] ++ rest.filter (Change.isAbove (Node.Link.advance l change).version) =
      (change :: rest).filter (Change.isAbove l.version) := by
  unfold Node.Link.awaits at hawaits
  cases hchange : change.version with
  | none => simp [versioned, Node.Link.advance, Change.isAbove, hchange]
  | some v =>
    rw [hchange] at hawaits
    have hlt : l.version < v := by simpa using hawaits
    obtain ⟨rfl, -, hrest⟩ := h.head hwaiting hchange hlt
    rw [List.filter_cons_of_pos (by simp [Change.isAbove, hchange])]
    have hsame : rest.filter (Change.isAbove (l.version + 1)) =
        rest.filter (Change.isAbove l.version) := by
      refine List.filter_congr fun other hother => ?_
      cases hv : other.version with
      | none => simp [Change.isAbove, hv]
      | some w =>
        have hmem : l.version < w → w ∈ (Store.versionsOf rest).filter (l.version < ·) := by
          intro hw
          exact List.mem_filter.mpr
            ⟨List.mem_filterMap.mpr ⟨other, hother, hv⟩, by simpa using hw⟩
        rw [hrest, Store.mem_versionsBetween] at hmem
        simp only [Change.isAbove, hv, Option.any_some, decide_eq_decide]
        omega
    simpa [versioned, Node.Link.advance, hchange] using hsame

lemma Told.finishDelivery {c : Coordination} (h : c.Told) (hs : c.Sound) {change : Change}
    (hdelivering : c.delivering = some change) (takes : Address → Bool) :
    Told { c with
      node := c.node.deliver change takes
      delivering := none
      sent := afterSending c.node.links change c.sent } := by
  have hbefore := waiting_finishDelivery hdelivering
  have hafter : waiting { c with
      node := c.node.deliver change takes
      delivering := none
      sent := afterSending c.node.links change c.sent } = c.node.store.journal.pending := by
    simp [waiting]
  constructor
  · simpa using h.start_le
  · simpa using h.made
  · intro m hm
    obtain ⟨l, hl, hreplica, hcases⟩ := mem_links_deliver hm
    obtain ⟨hfirst, hcopied, hsent⟩ := h.link l hl
    have hfollows := hs.link_follows l hl
    rw [hbefore] at hsent
    rw [hafter]
    dsimp only
    rw [hreplica, afterSending_of_mem hs hl]
    refine ⟨hfirst, ?_⟩
    rcases hcases with ⟨hawaits, rfl⟩ | ⟨hawaits, rfl⟩
    · refine ⟨hcopied, ?_⟩
      rw [hawaits, if_neg (by simp), ← hsent, List.filter_cons_of_neg]
      cases hv : change.version with
      | none => simp [Change.isAbove, hv]
      | some v => simpa [Node.Link.awaits, Change.isAbove, hv] using hawaits
    · have hrises : l.version ≤ (Node.Link.advance l change).version := by
        cases hv : change.version with
        | none => simp [Node.Link.advance, hv]
        | some v =>
          have : l.version < v := by simpa [Node.Link.awaits, hv] using hawaits
          simp only [Node.Link.advance, hv, Option.getD_some]
          omega
      refine ⟨Nat.le_trans hcopied hrises, ?_⟩
      have hsplit : versioned (c.sent l.replica ++ [change]) =
          versioned (c.sent l.replica) ++ versioned [change] := List.filter_append ..
      rw [hawaits, if_pos rfl, hsplit, List.append_assoc,
        filter_isAbove_advance hfollows hbefore hawaits, hsent]
  · intro r version hat
    rcases hs.one_at_a_time with hnone | hnone
    · rw [hnone] at hat
      cases hat
    · rw [hdelivering] at hnone
      cases hnone

lemma Told.step {c d : Coordination} (h : c.Told) (hs : c.Sound) (hstep : Step c d) : d.Told := by
  cases hstep with
  | work now a ha => exact h.work hs now ha
  | keepLink around replica hidle hlive => exact h
  | startAttach around replica version data started hidle hlive hstart =>
    have htold := h.startAttach hs replica around
    rw [hstart] at htold
    rw [version_startAttach hstart]
    exact htold
  | failAttach around replica fault started hidle hlive hstart =>
    have htold := (h.startAttach hs replica around).giveUp
    rw [hstart] at htold
    have hkept : ({ c with node := started.settleJournal } : Coordination) =
        { c with node := started.settleJournal, attaching := none } := by rw [hidle.1]
    rw [hkept]
    exact htold
  | finishAttach replica version taken hat => exact h.finishAttach hs hat taken
  | startDelivery change rest hidle hpending => exact h.startDelivery hidle hpending
  | finishDelivery change takes hdelivering => exact h.finishDelivery hs hdelivering takes

lemma Reachable.told {c : Coordination} (h : Reachable c) : c.Told := by
  induction h with
  | start n copied sent hlinks hjournal => exact told_start hlinks copied sent
  | step hbefore hstep ih => exact ih.step hbefore.sound hstep

/-! ## The steps make up the requests and deliveries of a node -/

/-- Attaching a replica with nothing else in between. -/
lemma Reachable.attach {c : Coordination} (h : Reachable c) (hidle : c.isIdle)
    (around : Surroundings) (replica : Address) :
    ∃ d, Reachable d ∧ d.isIdle ∧ d.node = (c.node.attach around replica).2 := by
  by_cases hlive : (c.node.link? replica).isSome ∧ around.answers replica
  · refine ⟨c, h, hidle, ?_⟩
    rw [Node.attach, if_pos hlive]
  · have hunlinked : { c.node with links := c.node.links.filter fun l => l.replica ≠ replica } =
        unlinked c.node replica := rfl
    rw [Node.attach, if_neg hlive, hunlinked]
    dsimp only
    rcases hstart : (unlinked c.node replica).startAttach around with
      ⟨fault | ⟨version, data⟩, started⟩
    · exact ⟨_, h.step (.failAttach c around replica fault started hidle hlive hstart), hidle, rfl⟩
    · have hstarted :=
        h.step (.startAttach c around replica version data started hidle hlive hstart)
      exact ⟨_, hstarted.step (.finishAttach _ replica version (around.takesCopy replica) rfl),
        ⟨rfl, hidle.2⟩, rfl⟩

/-- Delivering the change that has waited longest with nothing else in between. -/
lemma Reachable.deliverNext {c : Coordination} (h : Reachable c) (hidle : c.isIdle)
    (takes : Address → Bool) :
    ∃ d, Reachable d ∧ d.isIdle ∧ d.node = c.node.deliverNext takes := by
  unfold Node.deliverNext
  split
  · exact ⟨c, h, hidle, rfl⟩
  · rename_i change rest hpending
    have hstarted := h.step (.startDelivery c change rest hidle hpending)
    exact ⟨_, hstarted.step (.finishDelivery _ change takes rfl), ⟨hidle.1, rfl⟩, rfl⟩

/-! ## Nothing is lost and nothing repeated -/

/-- **Replicas miss nothing and get nothing twice.**  In every reachable state, what waits above the
version of a link, or of the copy of a replica that is being attached, is all up to the version of
the store, in order.  What a link was sent, and what waits for it, are together the changes made
since its copy, each once and in order.  Without a link and without a replica being attached, no
change is recorded. -/
theorem Reachable.nothing_lost {c : Coordination} (h : Reachable c) :
    (∀ version, c.Carries version → version ≤ c.node.store.revision ∧
      (Store.versionsOf c.waiting).filter (version < ·) =
        Store.versionsBetween version c.node.store.revision) ∧
    Store.versionsOf c.made = Store.versionsBetween c.start c.node.store.revision ∧
    (∀ l ∈ c.node.links,
      versioned (c.sent l.replica) ++ c.waiting.filter (Change.isAbove l.version) =
        c.made.filter (Change.isAbove (c.copied l.replica)) ∧
      Store.versionsOf (c.sent l.replica) =
        Store.versionsBetween (c.copied l.replica) l.version) ∧
    (c.node.links = [] → c.attaching = none → ∀ (now : Nat) (a : Store.Action), a.isWork →
      (a.run now c.node.store).journal.pending = c.node.store.journal.pending) := by
  have hs := h.sound
  have ht := h.told
  refine ⟨?_, ht.made, ?_, ?_⟩
  · rintro version (⟨l, hl, rfl⟩ | ⟨replica, hat⟩)
    · exact hs.link_follows l hl
    · exact hs.copy_follows replica version hat
  · intro l hl
    obtain ⟨hfirst, hcopied, hsent⟩ := ht.link l hl
    obtain ⟨hle, hqueue⟩ := hs.link_follows l hl
    refine ⟨hsent, ?_⟩
    -- The versions sent are those made since the copy, less those that wait.
    have hversions := congrArg Store.versionsOf hsent
    rw [Store.versionsOf_append, versionsOf_versioned, versionsOf_filter_isAbove,
      versionsOf_filter_isAbove, hqueue, ht.made,
      Store.filter_versionsBetween hfirst (Nat.le_trans hcopied hle),
      ← Store.versionsBetween_append hcopied hle] at hversions
    exact List.append_cancel_right hversions
  · intro hlinks hattaching now a ha
    have hoff : c.node.store.journal.recording = false := by
      rw [Bool.eq_false_iff, ne_eq, hs.recording_iff, hlinks, hattaching]
      simp
    rw [(Store.Action.commits ha now c.node.store).pending, hoff]
    simp

/-- A link entered at version 0, and one change made since. -/
theorem Reachable.nothing_lost_after_set :
    ∃ c, Reachable c ∧ c.Carries 0 ∧ c.node.store.revision = 1 ∧
      (Store.versionsOf c.waiting).filter (0 < ·) = [1] := by
  let around : Surroundings := ⟨0, 0, 0, fun _ => true, fun _ => true⟩
  have hstart := Reachable.start (Node.new Config.default ⟨[], [], ∅⟩ 0) (fun _ => 0)
    (fun _ => []) rfl rfl
  have hstarted := hstart.step (.startAttach _ around ⟨"localhost", 1⟩ 0 _ _ ⟨rfl, rfl⟩
    (by decide) rfl)
  have hattached := hstarted.step (.finishAttach _ ⟨"localhost", 1⟩ 0 true rfl)
  have hset := hattached.step (.work _ 0 (.perform (.set "a" []) 0 "0") rfl)
  refine ⟨_, hset, ?_, rfl, (hset.nothing_lost.1 0 ?_).2⟩
  all_goals exact .inl ⟨⟨⟨"localhost", 1⟩, 0⟩, List.mem_cons_self, rfl⟩

end Coordination

end ReplicatedStore
