import ReplicatedStore.Proofs.Command.Recorded
import ReplicatedStore.Proofs.Store.Action
import ReplicatedStore.Proofs.Store.Replay

/-!
# Stores that a replica cannot tell apart

Two stores are `Alike` if every key holds the same in both, and has a deadline in both or in
neither.  This is what a copy keeps of a store: the copy runs on another clock, so the deadlines
themselves differ.

`Leads s u c` says that the recorded change `c` leads from `s` to `u`.  It depends on nothing of
either store but what alike stores share and the version, and it fixes what running the recorded
operation on any store like `s` does: it succeeds, it commits `c` again, octet by octet, and what it
leaves is like `u` (`Leads.perform`).
-/

namespace ReplicatedStore.Store

/-- Every key holds the same in both stores, and has a deadline in both or in neither. -/
def Alike (s t : Store) : Prop :=
  ∀ db key, t.value? db key = s.value? db key ∧
    (t.deadline? db key).isSome = (s.deadline? db key).isSome

namespace Alike

variable {s t u : Store}

lemma refl (s : Store) : Alike s s :=
  fun _ _ => ⟨rfl, rfl⟩

lemma symm (h : Alike s t) : Alike t s :=
  fun db key => ⟨(h db key).1.symm, (h db key).2.symm⟩

lemma trans (h : Alike s t) (g : Alike t u) : Alike s u := by
  intro db key
  obtain ⟨hvalue, htimed⟩ := h db key
  obtain ⟨gvalue, gtimed⟩ := g db key
  exact ⟨gvalue.trans hvalue, gtimed.trans htimed⟩

lemma of_same (h : SameContents s t) : Alike s t :=
  fun db key => ⟨(h db key).1, by rw [(h db key).2]⟩

/-- The same edits at any two times keep stores alike. -/
lemma edit (h : Alike s t) (before later : Nat) (edits : List Edit) :
    Alike (s.edit before edits) (t.edit later edits) := by
  intro db key
  obtain ⟨hvalue, htimed⟩ := h db key
  have hpaired : Paired (fun _ _ => True) (s.deadline? db key) (t.deadline? db key) :=
    ⟨htimed, fun _ _ _ _ => trivial⟩
  rw [value?_edit, value?_edit, deadline?_edit, deadline?_edit, hvalue]
  exact ⟨rfl, (hpaired.afterEdits (fun _ => trivial) edits db key).1⟩

/-- An operation ends in the same way on stores that are alike. -/
lemma outcome (h : Alike s t) (op : Operation) (pick : Nat) (db : String) :
    op.outcome t pick db = op.outcome s pick db :=
  Operation.outcome_congr (fun d k _ => (h d k).1) (fun d k _ => (h d k).2) pick

end Alike

/-- The recorded change leads from one store to the next. -/
inductive Leads (s u : Store) : Change → Prop where
  /-- The operation that it records is made, whatever the clock and the pick. -/
  | made (op : Operation) (db : String) (edits : List Edit) (now : Nat)
      (recordable : op.Recordable) (outcome : ∀ pick, op.outcome s pick db = .made op edits)
      (contents : Alike (s.edit now edits) u) (version : u.revision = s.revision + 1) :
      Leads s u (op.toChange db (s.revision + 1))

namespace Leads

variable {s t u v : Store} {c : Change}

/-- It has the version that it leads to. -/
lemma version_eq (h : Leads s u c) :
    u.revision = s.revision + 1 ∧ c.version = some (s.revision + 1) := by
  cases h with
  | made op db edits now recordable outcome contents version => exact ⟨version, rfl⟩

/-- It leads from any store like the first to any store like the second. -/
lemma congr (h : Leads s u c) (hs : Alike s t) (ht : t.revision = s.revision) (hu : Alike u v)
    (hv : v.revision = u.revision) : Leads t v c := by
  cases h with
  | made op db edits now recordable outcome contents version =>
    rw [← ht]
    refine .made op db edits now recordable (fun pick => ?_) ?_ (by rw [hv, version, ht])
    · rw [hs.outcome]
      exact outcome pick
    · exact ((hs.edit now now edits).symm.trans contents).trans hu

/-- **A recorded change is recorded again** when its operation is performed on a store like the one
it was made on, at whatever time and with whatever pick. -/
lemma perform (h : Leads s u c) (hs : Alike s t) (ht : t.revision = s.revision) :
    ∃ op : Operation, op.Recordable ∧ c = op.toChange c.db (t.revision + 1) ∧ ∀ now pick,
      ∃ answer edits, op.perform t now pick c.db =
          (.ok answer, (t.edit now edits).commit c.db c.command c.args) ∧
        Alike u (op.perform t now pick c.db).2 := by
  cases h with
  | made op db edits before recordable outcome contents version =>
    refine ⟨op, recordable, by rw [ht]; rfl, fun now pick => ?_⟩
    have houtcome : op.outcome t pick db = .made op edits := by
      rw [hs.outcome]
      exact outcome pick
    have hends := Operation.perform_outcome t now pick db op
    rw [houtcome] at hends
    obtain ⟨answer, hresult⟩ := hends
    have hcommit := Alike.of_same (sameContents_commit (t.edit now edits) db op.command
      (op.arguments db))
    refine ⟨answer, edits, hresult, ?_⟩
    show Alike u (op.perform t now pick db).2
    rw [hresult]
    exact (contents.symm.trans (hs.edit before now edits)).trans hcommit

end Leads

/-- An operation that is made is recorded as a change that leads to the store it leaves. -/
lemma leads_perform {s : Store} {now pick : Nat} {db : String} {op recorded : Operation}
    {edits : List Edit} (hrecordable : op.Recordable)
    (h : op.outcome s pick db = .made recorded edits) :
    Leads s (op.perform s now pick db).2 (recorded.toChange db (s.revision + 1)) := by
  have hends := Operation.perform_outcome s now pick db op
  rw [h] at hends
  obtain ⟨answer, hresult⟩ := hends
  rw [hresult]
  refine .made recorded db edits now (Operation.recordable_recorded h hrecordable)
    (Operation.outcome_recorded h) (.of_same (sameContents_commit _ db _ _)) ?_
  rw [revision_commit, (s.sameCounters_edit now edits).revision]

/-! ## Several changes -/

/-- The changes lead from one store to another, one by one. -/
inductive Path : Store → List Change → Store → Prop where
  /-- There are none, and the stores are alike. -/
  | done {s t : Store} (alike : Alike s t) (version : t.revision = s.revision) : Path s [] t
  /-- One leads to the first store on the way, the others from there. -/
  | step {s t u : Store} {c : Change} {cs : List Change} (first : Leads s u c)
      (rest : Path u cs t) : Path s (c :: cs) t

namespace Path

variable {s t u v : Store} {c : Change} {cs ds : List Change}

/-- A path starts at any store like its first one. -/
lemma of_alike (h : Path s cs t) (hs : Alike s u) (hu : u.revision = s.revision) : Path u cs t := by
  cases h with
  | done alike version => exact .done (hs.symm.trans alike) (version.trans hu.symm)
  | step first rest => exact .step (first.congr hs hu (.refl _) rfl) rest

lemma trans (h : Path s cs t) (g : Path t ds u) : Path s (cs ++ ds) u := by
  induction h with
  | done alike version => exact g.of_alike alike.symm version.symm
  | step first _ ih => exact .step first (ih g)

lemma of_leads (h : Leads s t c) : Path s [c] t :=
  .step h (.done (.refl t) rfl)

/-- The versions on a path are all those between its ends. -/
lemma versions (h : Path s cs t) :
    s.revision ≤ t.revision ∧ versionsOf cs = versionsBetween s.revision t.revision := by
  induction h with
  | done alike version =>
    rw [version]
    exact ⟨Nat.le_refl _, (versionsBetween_self _).symm⟩
  | step first rest ih =>
    rename_i s t u c cs
    obtain ⟨hraised, hversion⟩ := first.version_eq
    obtain ⟨hle, hrest⟩ := ih
    have hfirst :
        versionsOf (c :: cs) = versionsBetween s.revision u.revision ++ versionsOf cs := by
      rw [versionsOf, List.filterMap_cons_some hversion, hraised, versionsBetween_succ]
      rfl
    refine ⟨by omega, ?_⟩
    rw [hfirst, hrest, versionsBetween_append (by omega) hle]

/-- Every change on a path has a version between its ends. -/
lemma version_of_mem (h : Path s cs t) (hc : c ∈ cs) :
    ∃ version, c.version = some version ∧ s.revision < version ∧ version ≤ t.revision := by
  induction h with
  | done alike version => cases hc
  | step first rest ih =>
    obtain ⟨hraised, hversion⟩ := first.version_eq
    have hle := rest.versions.1
    rcases List.mem_cons.mp hc with rfl | hlater
    · exact ⟨_, hversion, by omega, by omega⟩
    · obtain ⟨version, hsome, hlow, hhigh⟩ := ih hlater
      exact ⟨version, hsome, by omega, hhigh⟩

end Path

end ReplicatedStore.Store
