import ReplicatedStore.Proofs.Node.Turns
import ReplicatedStore.Proofs.Replication.Relay

/-!
# What still waits for a copy

A copy of the store of a node may stand at any earlier store.  `Store.Tracks s moved base` says what
the changes that wait on the node, now at `s`, are for a copy like `base`: either those above its
version lead from it to `s`, or a snapshot has moved the node forward since, and what was recorded
then does not follow what was recorded before.  In the second case the first change across the gap
is one that the copy must refuse; as long as none is recorded the node stands where the snapshot
moved it, which is `moved`.

Each thing that may happen to the node, or that a copy may be sent, keeps this up.
-/

namespace ReplicatedStore.Store

/-- The changes that wait on a node whose store is `s` are what the copy `base` needs, or the copy
is cut off from the node by a gap. -/
inductive Tracks (s : Store) (moved : Option Nat) (base : Store) : Prop where
  /-- The changes above the version of the copy lead to the store of the node. -/
  | level (approaches : Node.Approaches s.journal.pending s base)
  /-- They lead to an earlier store only, and what was recorded later leaves out the next
  version. -/
  | parted (changes gap : List Change) (last : Store)
      (waiting : s.journal.pending.filter (Change.isAbove base.revision) = changes ++ gap)
      (path : Path base changes last) (ahead : last.revision < s.revision)
      (apart : ∀ c ∈ gap, ∃ v, c.version = some v ∧ last.revision + 1 < v)
      (bare : gap = [] → moved = some s.revision)

namespace Tracks

variable {s t base copy : Store} {moved : Option Nat}

/-- The version of the copy is not above that of the node. -/
lemma revision_le (h : Tracks s moved base) : base.revision ≤ s.revision := by
  cases h with
  | level approaches => exact approaches.versions.1
  | parted changes gap last waiting path ahead apart bare =>
    have hle := path.versions.1
    omega

/-- A new copy needs nothing of what waits. -/
lemma current (moved : Option Nat)
    (h : ∀ c ∈ s.journal.pending, ∀ v, c.version = some v → v ≤ s.revision) :
    Tracks s moved s := by
  have hnone : s.journal.pending.filter (Change.isAbove s.revision) = [] := by
    rw [List.filter_eq_nil_iff]
    intro c hc
    cases hversion : c.version with
    | none => simp [Change.isAbove, hversion]
    | some v =>
      have hle := h c hc v hversion
      simp only [Change.isAbove, hversion, Option.any_some, decide_eq_true_eq]
      omega
  refine .level ?_
  rw [Node.Approaches, hnone]
  exact .done (.refl s) rfl

/-- Only what a copy holds matters, and its version. -/
lemma of_alike (h : Tracks s moved base) (halike : Alike base copy)
    (hversion : copy.revision = base.revision) : Tracks s moved copy := by
  cases h with
  | level approaches =>
    refine .level ?_
    rw [Node.Approaches, hversion]
    exact approaches.of_alike halike hversion
  | parted changes gap last waiting path ahead apart bare =>
    refine .parted changes gap last ?_ (path.of_alike halike hversion) ahead apart bare
    rw [hversion, waiting]

/-- Of the node only its contents, its version and those changes matter that wait for the copy. -/
lemma congr (h : Tracks s moved base) (halike : Alike s t) (hversion : t.revision = s.revision)
    (hwaiting : t.journal.pending.filter (Change.isAbove base.revision) =
      s.journal.pending.filter (Change.isAbove base.revision)) : Tracks t moved base := by
  cases h with
  | level approaches =>
    have hpath := approaches.trans (.done halike hversion)
    rw [List.append_nil] at hpath
    refine .level ?_
    rw [Node.Approaches, hwaiting]
    exact hpath
  | parted changes gap last waiting path ahead apart bare =>
    rw [← hversion] at ahead bare
    rw [← hwaiting] at waiting
    exact .parted changes gap last waiting path ahead apart bare

/-- A turn of the node that makes a change adds it to what waits. -/
lemma made (h : Tracks s moved base) {c : Change} (hleads : Leads s t c)
    (hpending : t.journal.pending = s.journal.pending ++ [c]) : Tracks t moved base := by
  obtain ⟨hraised, hnumber⟩ := hleads.version_eq
  have hle := h.revision_le
  have habove : [c].filter (Change.isAbove base.revision) = [c] := by
    have hlt : base.revision < s.revision + 1 := by omega
    simp [Change.isAbove, hnumber, hlt]
  cases h with
  | level approaches =>
    refine .level ?_
    rw [Node.Approaches, hpending, List.filter_append, habove]
    exact approaches.trans (.of_leads hleads)
  | parted changes gap last waiting path ahead apart bare =>
    refine .parted changes (gap ++ [c]) last ?_ path (by omega) ?_ (by simp)
    · rw [hpending, List.filter_append, habove, waiting, List.append_assoc]
    · intro d hd
      rcases List.mem_append.mp hd with hold | hnew
      · exact apart d hold
      · rw [List.mem_singleton.mp hnew]
        exact ⟨s.revision + 1, hnumber, by omega⟩

/-- Whatever turn the node takes while it records. -/
lemma turns (h : Tracks s moved base) (hrecording : s.journal.recording) (hturns : Turns s t) :
    Tracks t moved base := by
  obtain ⟨changes, hturn, hcommits⟩ := hturns
  have hpending := hcommits.pending
  rw [if_pos hrecording] at hpending
  cases hturn with
  | quiet alike version =>
    rw [List.append_nil] at hpending
    exact h.congr alike version (by rw [hpending])
  | noticed c notice alike version =>
    -- What has no version is above none.
    have habove : [c].filter (Change.isAbove base.revision) = [] := by
      simp [Change.isAbove, notice.unversioned]
    refine h.congr alike version ?_
    rw [hpending, List.filter_append, habove, List.append_nil]
  | made c leads => exact h.made leads hpending

/-- A snapshot that moves the node forward leaves a gap. -/
lemma jump (h : Tracks s moved base) (hpending : t.journal.pending = s.journal.pending)
    (hforward : s.revision < t.revision) : Tracks t (some t.revision) base := by
  cases h with
  | level approaches =>
    refine .parted _ [] s ?_ approaches hforward ?_ fun _ => rfl
    · rw [hpending, List.append_nil]
    · intro c hc
      cases hc
  | parted changes gap last waiting path ahead apart bare =>
    rw [← hpending] at waiting
    exact .parted changes gap last waiting path (by omega) apart fun _ => rfl

/-! ## Taking changes off the queue -/

section Queue

variable {c : Change} {rest : List Change}

/-- A change that the copy does not need is taken off. -/
lemma skip (h : Tracks s moved base) (hpending : s.journal.pending = c :: rest)
    (hpassed : Change.isAbove base.revision c = false) (halike : Alike s t)
    (hversion : t.revision = s.revision) (hrest : t.journal.pending = rest) :
    Tracks t moved base := by
  refine h.congr halike hversion ?_
  rw [hrest, hpending, List.filter_cons_of_neg (by simp [hpassed])]

/-- A change that the copy needs and that is taken off is the next one for it, and takes it to where
the rest of the queue is what it needs; or there is a gap before the change. -/
lemma advance (h : Tracks s moved base) (hpending : s.journal.pending = c :: rest)
    (hneeded : Change.isAbove base.revision c) (halike : Alike s t)
    (hversion : t.revision = s.revision) (hrest : t.journal.pending = rest) :
    (∃ u, Leads base u c ∧ Tracks t moved u) ∨
      ∃ v, c.version = some v ∧ base.revision + 1 < v := by
  have hfirst : s.journal.pending.filter (Change.isAbove base.revision) =
      c :: rest.filter (Change.isAbove base.revision) := by
    rw [hpending]
    exact List.filter_cons_of_pos hneeded
  -- What is above the version of the copy and again above the next one is what is above that.
  have hlater : ∀ {u : Store}, Leads base u c → ∀ later,
      rest.filter (Change.isAbove base.revision) = later →
      later.filter (Change.isAbove u.revision) = later →
      t.journal.pending.filter (Change.isAbove u.revision) = later := by
    intro u hleads later hwaits hkept
    have hraised := hleads.version_eq.1
    rw [hrest, ← Change.filter_isAbove_filter (by omega : base.revision ≤ u.revision), hwaits,
      hkept]
  cases h with
  | level approaches =>
    rw [Node.Approaches, hfirst] at approaches
    cases approaches with
    | step first onward =>
      rename_i u
      have hpath := onward.trans (.done halike hversion)
      rw [List.append_nil] at hpath
      have hwaits := hlater first _ rfl (onward.filter_isAbove_self (Nat.le_refl _))
      refine .inl ⟨u, first, .level ?_⟩
      rw [Node.Approaches, hwaits]
      exact hpath
  | parted changes gap last waiting path ahead apart bare =>
    rw [hfirst] at waiting
    cases path with
    | done alike version =>
      have hc : c ∈ gap := by
        rw [← List.nil_append gap, ← waiting]
        exact List.mem_cons_self
      obtain ⟨v, hnumber, hgap⟩ := apart c hc
      exact .inr ⟨v, hnumber, by omega⟩
    | step first onward =>
      rename_i u d changes
      obtain ⟨rfl, hwaits⟩ := List.cons.inj waiting
      have honward := onward.versions.1
      have hgap : gap.filter (Change.isAbove u.revision) = gap := by
        rw [List.filter_eq_self]
        intro e he
        obtain ⟨v, hnumber, hapart⟩ := apart e he
        have hlt : u.revision < v := by omega
        simp [Change.isAbove, hnumber, hlt]
      have hkept : (changes ++ gap).filter (Change.isAbove u.revision) = changes ++ gap := by
        rw [List.filter_append, onward.filter_isAbove_self (Nat.le_refl _), hgap]
      rw [← hversion] at ahead bare
      exact .inl ⟨u, first,
        .parted changes gap last (hlater first _ hwaits hkept) onward ahead apart bare⟩

end Queue

/-- Once nothing waits, a copy that is not cut off is like the node. -/
lemma drained (h : Tracks s moved base) (hpending : s.journal.pending = [])
    (hmoved : moved ≠ some s.revision) : Alike base s ∧ s.revision = base.revision := by
  cases h with
  | level approaches =>
    rw [Node.Approaches, hpending] at approaches
    cases approaches with
    | done alike version => exact ⟨alike, version⟩
  | parted changes gap last waiting path ahead apart bare =>
    rw [hpending] at waiting
    have hgap : gap = [] := (List.append_eq_nil_iff.mp waiting.symm).2
    exact absurd (bare hgap) hmoved

end Tracks

end ReplicatedStore.Store
