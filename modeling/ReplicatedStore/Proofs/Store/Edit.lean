import ReplicatedStore.Proofs.Store.Contents

/-!
# Edits

An *edit* is one of the few steps in which the contents of a store change.  What an edit leaves
under a key depends on nothing but what that key held before (`value?_edit`, `deadline?_edit`), so
two stores that agree on a key still agree on it after the same edits, and a key that the edits do
not name keeps what it has.

A deadline is scheduled as a time to live, because the same edits are made again on a replica whose
clock shows another time.  Edits move no counter and record nothing.
-/

open Std (ExtTreeMap)

namespace ReplicatedStore.Store

/-- A step that changes the contents of a store. -/
inductive Edit where
  /-- Make the database exist. -/
  | ensure (db : String)
  /-- Put a value under a key, whose deadline stays. -/
  | put (db key : String) (value : Value)
  /-- Take a key out with its deadline. -/
  | discard (db key : String)
  /-- Take away the deadline of a key. -/
  | clear (db key : String)
  /-- Give a key a time to live in milliseconds. -/
  | schedule (db key : String) (life : Nat)
  /-- Remove every key of a database. -/
  | flush (db : String)
  /-- Remove every database but the one that always exists. -/
  | flushAll

namespace Edit

/-- The store after an edit at the time `now`. -/
def apply [Clock] (now : Nat) (s : Store) : Edit → Store
  | .ensure db => s.ensure db
  | .put db key value => s.put db key value
  | .discard db key => s.discard db key
  | .clear db key => s.clearDeadline db key
  | .schedule db key life => s.setDeadline db key (deadlineAfter now life)
  | .flush db =>
    { s with databases := s.databases.insert db ∅, agenda := s.agenda.clearDatabase db }
  | .flushAll =>
    { s with databases := ExtTreeMap.ofList [(defaultDatabase, ∅)], agenda := Agenda.empty }

/-- What an edit leaves under a key that held `old`. -/
def valueAt (db key : String) (old : Option Value) : Edit → Option Value
  | .put d k value => if db = d ∧ key = k then some value else old
  | .discard d k => if db = d ∧ key = k then none else old
  | .flush d => if db = d then none else old
  | .flushAll => none
  | .ensure _ | .clear _ _ | .schedule _ _ _ => old

/-- The deadline that an edit at the time `now` leaves to a key that had `old`. -/
def deadlineAt [Clock] (now : Nat) (db key : String) (old : Option Nat) : Edit → Option Nat
  | .discard d k | .clear d k => if db = d ∧ key = k then none else old
  | .schedule d k life => if db = d ∧ key = k then some (deadlineAfter now life) else old
  | .flush d => if db = d then none else old
  | .flushAll => none
  | .ensure _ | .put _ _ _ => old

end Edit

/-- The store after edits at the time `now`. -/
def edit [Clock] (s : Store) (now : Nat) (edits : List Edit) : Store :=
  edits.foldl (Edit.apply now) s

/-- What edits leave under a key that held `old`. -/
def valueAfter (edits : List Edit) (db key : String) (old : Option Value) : Option Value :=
  edits.foldl (Edit.valueAt db key) old

/-- The deadline that edits at the time `now` leave to a key that had `old`. -/
def deadlineAfterEdits [Clock] (now : Nat) (edits : List Edit) (db key : String)
    (old : Option Nat) : Option Nat :=
  edits.foldl (Edit.deadlineAt now db key) old

variable (s : Store) (now : Nat) (db key : String)

lemma valueAfter_append (edits more : List Edit) (old : Option Value) :
    valueAfter (edits ++ more) db key old = valueAfter more db key (valueAfter edits db key old) :=
  List.foldl_append

private lemma value?_flushed (agenda : Agenda) :
    { s with databases := ExtTreeMap.ofList [(defaultDatabase, ∅)], agenda }.value? db key =
      none := by
  have hofList : (ExtTreeMap.ofList [(defaultDatabase, (∅ : Database))])[db]?.bind (·[key]?) =
      none := by
    rw [ExtTreeMap.ofList_singleton, ExtTreeMap.getElem?_insert]
    split <;> simp
  exact hofList

/-! ## Edits act key by key -/

section Act

variable [Clock]

@[simp] lemma edit_nil : s.edit now [] = s := rfl

@[simp] lemma edit_cons (e : Edit) (edits : List Edit) :
    s.edit now (e :: edits) = (e.apply now s).edit now edits := rfl

lemma value?_apply (e : Edit) :
    (e.apply now s).value? db key = e.valueAt db key (s.value? db key) := by
  cases e with
  | ensure d => exact s.value?_ensure d db key
  | put d k value => exact s.value?_put d k db key value
  | discard d k => exact s.value?_discard d k db key
  | clear d k => rfl
  | schedule d k life => rfl
  | flush d =>
    simp only [Edit.apply, Edit.valueAt, value?, ExtTreeMap.getElem?_insert,
      Std.compare_eq_iff_eq]
    by_cases h : d = db
    · simp [h]
    · simp [h, Ne.symm h]
  | flushAll => exact s.value?_flushed db key _

lemma deadline?_apply (e : Edit) :
    (e.apply now s).deadline? db key = e.deadlineAt now db key (s.deadline? db key) := by
  cases e with
  | ensure d => rfl
  | put d k value => rfl
  | discard d k => exact s.deadline?_discard d k db key
  | clear d k => exact s.deadline?_clearDeadline d k db key
  | schedule d k life => exact s.deadline?_setDeadline d k db key _
  | flush d => exact s.agenda.deadline?_clearDatabase d db key
  | flushAll => exact Agenda.deadline?_empty db key

lemma value?_edit (edits : List Edit) :
    (s.edit now edits).value? db key = valueAfter edits db key (s.value? db key) := by
  induction edits generalizing s with
  | nil => rfl
  | cons e rest ih =>
    rw [edit_cons, ih, value?_apply]
    rfl

lemma deadline?_edit (edits : List Edit) :
    (s.edit now edits).deadline? db key =
      deadlineAfterEdits now edits db key (s.deadline? db key) := by
  induction edits generalizing s with
  | nil => rfl
  | cons e rest ih =>
    rw [edit_cons, ih, deadline?_apply]
    rfl

lemma deadlineAfterEdits_append (edits more : List Edit) (old : Option Nat) :
    deadlineAfterEdits now (edits ++ more) db key old =
      deadlineAfterEdits now more db key (deadlineAfterEdits now edits db key old) :=
  List.foldl_append

end Act

/-! ## Stores that hold the same -/

/-- Every key holds the same in both stores, and has the same deadline. -/
def SameContents (s t : Store) : Prop :=
  ∀ d k, t.value? d k = s.value? d k ∧ t.deadline? d k = s.deadline? d k

lemma SameContents.refl : SameContents s s :=
  fun _ _ => ⟨rfl, rfl⟩

lemma SameContents.trans {s t u : Store} (h : SameContents s t) (g : SameContents t u) :
    SameContents s u := by
  intro d k
  obtain ⟨hvalue, hdeadline⟩ := h d k
  obtain ⟨gvalue, gdeadline⟩ := g d k
  exact ⟨gvalue.trans hvalue, gdeadline.trans hdeadline⟩

lemma SameContents.symm {s t : Store} (h : SameContents s t) : SameContents t s := by
  intro d k
  obtain ⟨hvalue, hdeadline⟩ := h d k
  exact ⟨hvalue.symm, hdeadline.symm⟩

/-- The same edits keep stores alike. -/
lemma SameContents.edit [Clock] {s t : Store} (h : SameContents s t) (now : Nat)
    (edits : List Edit) : SameContents (s.edit now edits) (t.edit now edits) := by
  intro d k
  obtain ⟨hvalue, hdeadline⟩ := h d k
  rw [value?_edit, value?_edit, deadline?_edit, deadline?_edit, hvalue, hdeadline]
  exact ⟨rfl, rfl⟩

lemma sameContents_commit (db command : String) (args : List Bytes) :
    SameContents s (s.commit db command args) :=
  fun d k => ⟨s.value?_commit db d k command args, s.deadline?_commit db d k command args⟩

/-- Databases without keys do not matter. -/
lemma sameContents_of_ensures [Clock] {edits : List Edit} (h : ∀ e ∈ edits, ∃ d, e = .ensure d) :
    SameContents s (s.edit now edits) := by
  induction edits generalizing s with
  | nil => exact .refl s
  | cons e rest ih =>
    obtain ⟨d, rfl⟩ := h e List.mem_cons_self
    have hfirst : SameContents s (s.ensure d) :=
      fun db key => ⟨s.value?_ensure d db key, rfl⟩
    exact hfirst.trans (ih (s.ensure d) fun e' he' => h e' (List.mem_cons_of_mem _ he'))

/-! ## Edits move no counter -/

/-- The store with another contents: everything but the databases and the deadlines is kept. -/
structure SameCounters (s t : Store) : Prop where
  revision : t.revision = s.revision
  journal : t.journal = s.journal
  authority : t.authority = s.authority
  changeOperations : t.changeOperations = s.changeOperations

lemma SameCounters.trans {s t u : Store} (h : SameCounters s t) (g : SameCounters t u) :
    SameCounters s u :=
  ⟨g.revision.trans h.revision, g.journal.trans h.journal, g.authority.trans h.authority,
    g.changeOperations.trans h.changeOperations⟩

lemma sameCounters_apply [Clock] (e : Edit) : SameCounters s (e.apply now s) := by
  cases e <;> exact ⟨rfl, rfl, rfl, rfl⟩

lemma sameCounters_edit [Clock] (edits : List Edit) : SameCounters s (s.edit now edits) := by
  induction edits generalizing s with
  | nil => exact ⟨rfl, rfl, rfl, rfl⟩
  | cons e rest ih => exact (s.sameCounters_apply now e).trans (ih _)

end ReplicatedStore.Store
