import ReplicatedStore.Proofs.Command.Recorded
import ReplicatedStore.Proofs.Store.Deadlines
import ReplicatedStore.Proofs.Store.Replay

/-!
# Steps that a replica can follow

`Step now s t changes` says what serving a request, or the end of a key, does to the store `s` of an
authority at the time `now`.  Either the store that is left, `t`, holds the same, at the same
version, and no change was made; or one operation was made, which can be read back, and `changes` is
the one change that it is recorded as.

Only contents and version matter here.  What becomes of the journal is said by `Store.Commits`.
-/

namespace ReplicatedStore.Store

/-- From one store to the next, making at most one change. -/
inductive Step (now : Nat) (s t : Store) : List Change → Prop where
  /-- Nothing is changed. -/
  | quiet (contents : SameContents s t) (version : t.revision = s.revision) : Step now s t []
  /-- An operation is made. -/
  | made (op : Operation) (pick : Nat) (db : String) (edits : List Edit)
      (recordable : op.Recordable) (suited : op.Suited s db)
      (outcome : op.outcome s pick db = .made op edits)
      (contents : SameContents (s.edit now edits) t) (version : t.revision = s.revision + 1) :
      Step now s t [op.toChange db (s.revision + 1)]

namespace Step

variable {now : Nat} {s t u : Store} {changes : List Change}

/-- A step starts wherever the same contents are. -/
lemma of_same (hsame : SameContents s t) (hversion : t.revision = s.revision)
    (h : Step now t u changes) : Step now s u changes := by
  cases h with
  | quiet contents version => exact .quiet (hsame.trans contents) (version.trans hversion)
  | made op pick db edits recordable suited outcome contents version =>
    have houtcome : op.outcome s pick db = .made op edits := by
      rw [Operation.outcome_congr (fun d k _ => (hsame d k).1.symm)
        fun d k _ => by rw [(hsame d k).2]]
      exact outcome
    have hsuited : op.Suited s db := by
      have htype : ∀ key, t.typeOf db key = s.typeOf db key := by
        intro key
        rw [typeOf, (hsame db key).1, typeOf]
      cases op <;> first | trivial | skip
      rename_i key data
      rw [Operation.Suited, ← htype]
      exact suited
    rw [hversion]
    exact .made op pick db edits recordable hsuited houtcome ((hsame.edit now edits).trans contents)
      (by rw [version, hversion])

end Step

/-- An operation that was asked for is a step. -/
lemma perform_step (s : Store) (now : Nat) (op : Operation) (pick : Nat) (db : String)
    (hrecordable : op.Recordable) (hsuited : op.Suited s db) :
    Step now s (op.perform s now pick db).2 ((Action.perform op pick db).changes now s) := by
  rcases Operation.perform_cases s now pick db op with
    ⟨fault, edits, hout, hresult⟩ | ⟨recorded, edits, answer, hout, hresult⟩
  · rw [Action.changes, hout, hresult]
    exact .quiet (s.sameContents_of_ensures now (refused_edits hout))
      (s.sameCounters_edit now edits).revision
  · rw [Action.changes, hout, hresult]
    refine .made recorded pick db edits (Operation.recordable_recorded hout hrecordable)
      (Operation.suited_recorded hout hsuited) (Operation.outcome_recorded hout pick)
      (sameContents_commit _ db _ _) ?_
    rw [revision_commit, (s.sameCounters_edit now edits).revision]

/-! ## Several steps -/

/-- From one store to a later one, making the changes one by one, none of them after `now`. -/
inductive Trail (now : Nat) : Store → List Change → Store → Prop where
  /-- Nothing is changed. -/
  | done {s t : Store} (contents : SameContents s t) (version : t.revision = s.revision) :
    Trail now s [] t
  /-- A change is made, and others after it. -/
  | step {s t u : Store} {c : Change} {cs : List Change} {before : Nat} (hle : before ≤ now)
      (first : Step before s u [c]) (rest : Trail now u cs t) : Trail now s (c :: cs) t

/-- A step that makes a change raises the version to that of the change. -/
lemma Step.version_eq {now : Nat} {s t : Store} {c : Change} (h : Step now s t [c]) :
    t.revision = s.revision + 1 ∧ c.version = some (s.revision + 1) := by
  cases h with
  | made op pick db edits recordable suited outcome contents version => exact ⟨version, rfl⟩

/-- A step is a trail. -/
lemma Step.trail {before now : Nat} {s t : Store} {changes : List Change}
    (h : Step before s t changes) (hle : before ≤ now) : Trail now s changes t := by
  cases h with
  | quiet contents version => exact .done contents version
  | made op pick db edits recordable suited outcome contents version =>
    exact .step hle (.made op pick db edits recordable suited outcome contents version)
      (.done (.refl t) rfl)

namespace Trail

variable {now : Nat} {s t u : Store} {cs ds : List Change}

lemma mono {later : Nat} (h : Trail now s cs t) (hle : now ≤ later) : Trail later s cs t := by
  induction h with
  | done contents version => exact .done contents version
  | step hbefore first _ ih => exact .step (Nat.le_trans hbefore hle) first ih

lemma of_same (hsame : SameContents s t) (hversion : t.revision = s.revision)
    (h : Trail now t cs u) : Trail now s cs u := by
  cases h with
  | done contents version => exact .done (hsame.trans contents) (version.trans hversion)
  | step hle first rest => exact .step hle (.of_same hsame hversion first) rest

lemma trans (h : Trail now s cs t) (g : Trail now t ds u) : Trail now s (cs ++ ds) u := by
  induction h with
  | done contents version => exact g.of_same contents version
  | step hle first _ ih => exact .step hle first (ih g)

lemma revision_le (h : Trail now s cs t) : s.revision ≤ t.revision := by
  induction h with
  | done contents version => exact Nat.le_of_eq version.symm
  | step hle first _ ih =>
    have hfirst := first.version_eq.1
    omega

end Trail

/-- From one store to a later one, with all changes accounted for. -/
def Progress (now : Nat) (s t : Store) : Prop :=
  t.authority = s.authority ∧ ∃ changes, Trail now s changes t ∧ s.Commits changes t

lemma Progress.refl (now : Nat) (s : Store) : Progress now s s :=
  ⟨rfl, [], .done (.refl s) rfl, .of_eq rfl rfl⟩

lemma Progress.mono {now later : Nat} {s t : Store} (h : Progress now s t) (hle : now ≤ later) :
    Progress later s t := by
  obtain ⟨hauthority, changes, htrail, hcommits⟩ := h
  exact ⟨hauthority, changes, htrail.mono hle, hcommits⟩

lemma Progress.trans {now : Nat} {s t u : Store} (h : Progress now s t) (g : Progress now t u) :
    Progress now s u := by
  obtain ⟨hauthority, cs, htrail, hcommits⟩ := h
  obtain ⟨gauthority, ds, gtrail, gcommits⟩ := g
  exact ⟨gauthority.trans hauthority, cs ++ ds, htrail.trans gtrail, hcommits.trans gcommits⟩

end ReplicatedStore.Store
