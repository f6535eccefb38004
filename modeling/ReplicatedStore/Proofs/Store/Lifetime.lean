import ReplicatedStore.Proofs.Store.Frame
import ReplicatedStore.Proofs.Store.Lockstep

/-!
# The life of a deadline

A key gets a deadline when it is first asked to expire, and keeps it until it is written over, taken
out or renamed.  Which operations do that is said once (`Operation.clears`), apart from what they
do: all others leave the deadline and the key, whether they succeed or fail, and however they change
what the key holds.  Between two clearing operations the time to live is counted from the first
expiration that was asked for, and afterwards there is none until another one is
(`Reachable.lifetime`).

Both rest on the edits that operations make.  An edit may take a deadline away (`Edit.untimes`) or
give one (`Edit.times`).  Only a clearing operation makes an edit of the first kind to a key that
exists, and it makes one to each key that it clears, unless the key was not there
(`Operation.untimes_of_made`, `Operation.made_of_clears`).  An edit of the second kind is made by an
expiration alone, and only to a key without a deadline (`Operation.times_of_made`).

Left out are the actions that look at the clock or put other contents in place: the pass that ends
keys, and taking a snapshot.
-/

namespace ReplicatedStore

/-! ## Edits of deadlines -/

namespace Store

namespace Edit

/-- Does the edit take away the deadline of the key, whatever it is? -/
def untimes (d k : String) : Edit → Prop
  | .discard db key | .clear db key => d = db ∧ k = key
  | .flush db => d = db
  | .flushAll => True
  | .ensure _ | .put _ _ _ | .schedule _ _ _ => False

/-- Does the edit give the key a deadline? -/
def times (d k : String) : Edit → Prop
  | .schedule db key _ => d = db ∧ k = key
  | _ => False

variable {e : Edit} {d k : String}

lemma deadlineAt_of_untimes (h : e.untimes d k) (now : Nat) (old : Option Nat) :
    e.deadlineAt now d k old = none := by
  cases e with
  | discard db key => exact if_pos h
  | clear db key => exact if_pos h
  | flush db => exact if_pos h
  | flushAll => rfl
  | ensure db => exact h.elim
  | put db key value => exact h.elim
  | schedule db key life => exact h.elim

/-- An edit that takes no deadline away and gives none leaves it. -/
lemma deadlineAt_of_neither (hclear : ¬ e.untimes d k) (htime : ¬ e.times d k) (now : Nat)
    (old : Option Nat) : e.deadlineAt now d k old = old := by
  cases e with
  | discard db key => exact if_neg hclear
  | clear db key => exact if_neg hclear
  | flush db => exact if_neg hclear
  | flushAll => exact absurd trivial hclear
  | schedule db key life => exact if_neg htime
  | ensure db => rfl
  | put db key value => rfl

/-- No key goes but with its deadline. -/
lemma isSome_valueAt (hclear : ¬ e.untimes d k) {old : Option Value} (hold : old.isSome) :
    (e.valueAt d k old).isSome := by
  cases e with
  | discard db key =>
    have hkept : (Edit.discard db key).valueAt d k old = old := if_neg hclear
    rw [hkept]
    exact hold
  | flush db =>
    have hkept : (Edit.flush db).valueAt d k old = old := if_neg hclear
    rw [hkept]
    exact hold
  | put db key value =>
    rw [valueAt]
    split
    · rfl
    · exact hold
  | flushAll => exact absurd trivial hclear
  | ensure db => exact hold
  | clear db key => exact hold
  | schedule db key life => exact hold

end Edit

section Edits

variable {edits : List Edit} {d k : String}

lemma deadlineAfterEdits_none (htime : ∀ e ∈ edits, ¬ e.times d k) (now : Nat) :
    deadlineAfterEdits now edits d k none = none := by
  induction edits with
  | nil => rfl
  | cons e rest ih =>
    show deadlineAfterEdits now rest d k (e.deadlineAt now d k none) = none
    have hfirst : e.deadlineAt now d k none = none := by
      by_cases hclear : e.untimes d k
      · exact Edit.deadlineAt_of_untimes hclear now none
      · exact Edit.deadlineAt_of_neither hclear (htime e List.mem_cons_self) now none
    rw [hfirst]
    exact ih fun e' he' => htime e' (List.mem_cons_of_mem _ he')

/-- Once a deadline was taken away, it is gone as long as none is given. -/
lemma deadlineAfterEdits_of_untimes (htime : ∀ e ∈ edits, ¬ e.times d k)
    (hclear : ∃ e ∈ edits, e.untimes d k) (now : Nat) (old : Option Nat) :
    deadlineAfterEdits now edits d k old = none := by
  obtain ⟨e, he, hclear⟩ := hclear
  obtain ⟨before, after, rfl⟩ := List.append_of_mem he
  rw [deadlineAfterEdits_append]
  show deadlineAfterEdits now after d k (e.deadlineAt now d k _) = none
  rw [Edit.deadlineAt_of_untimes hclear]
  exact deadlineAfterEdits_none
    (fun e' he' => htime e' (List.mem_append_right _ (List.mem_cons_of_mem _ he'))) now

/-- A key and its deadline stay if no edit takes the deadline away or gives one. -/
lemma after_of_neither (hclear : ∀ e ∈ edits, ¬ e.untimes d k)
    (htime : ∀ e ∈ edits, ¬ e.times d k) :
    (∀ old : Option Value, old.isSome → (valueAfter edits d k old).isSome) ∧
      ∀ now old, deadlineAfterEdits now edits d k old = old := by
  induction edits with
  | nil => exact ⟨fun _ hold => hold, fun _ _ => rfl⟩
  | cons e rest ih =>
    obtain ⟨hvalue, hdeadline⟩ := ih (fun e' he' => hclear e' (List.mem_cons_of_mem _ he'))
      fun e' he' => htime e' (List.mem_cons_of_mem _ he')
    have hfirst := hclear e List.mem_cons_self
    constructor
    · intro old hold
      exact hvalue _ (Edit.isSome_valueAt hfirst hold)
    · intro now old
      show deadlineAfterEdits now rest d k (e.deadlineAt now d k old) = old
      rw [hdeadline, Edit.deadlineAt_of_neither hfirst (htime e List.mem_cons_self)]

end Edits

end Store

open Store (Edit)

/-! ## Operations -/

namespace Operation

/-- Does the operation on `db`, if it succeeds with the answer, take away the deadline of the key
`k` of the database `d`? -/
def clears (db d k : String) (answer : Answer) : Operation → Prop
  | .set key _ | .getSet key _ | .add key _ | .combineInto _ key _ => d = db ∧ k = key
  | .remove keys => d = db ∧ k ∈ keys
  | .rename source target => d = db ∧ (k = source ∨ k = target)
  | .renameNew source target => answer = .flag true ∧ d = db ∧ (k = source ∨ k = target)
  | .move key target => (d = db ∨ d = target) ∧ k = key
  | .flush => d = db
  | .flushAll => True
  | .setNew _ _ | .expire _ _ | .select | .push _ _ _ | .trim _ _ _ | .setItem _ _ _
  | .removeItems _ _ _ | .pop _ _ | .addMember _ _ | .removeMember _ _ | .popMember _
  | .moveMember _ _ _ => False

section Edits

variable {db key d k : String} {value : Value} {e : Edit}

lemma untimes_overwriting (he : e ∈ overwriting db key value) (h : e.untimes d k) :
    d = db ∧ k = key := by
  simp only [overwriting, List.mem_cons, List.not_mem_nil, or_false] at he
  rcases he with rfl | rfl
  · exact h
  · exact h.elim

lemma untimes_transferring {source target : String}
    (he : e ∈ transferring db source target value) (h : e.untimes d k) :
    d = db ∧ (k = source ∨ k = target) := by
  rcases List.mem_cons.mp he with rfl | he
  · exact ⟨h.1, .inl h.2⟩
  · obtain ⟨hd, hk⟩ := untimes_overwriting he h
    exact ⟨hd, .inr hk⟩

lemma not_untimes_erasing {found : Option Members} {member : Bytes}
    (he : e ∈ erasing db key found member) : ¬ e.untimes d k := by
  cases found with
  | none => cases he
  | some members =>
    obtain rfl := List.mem_singleton.mp he
    exact id

lemma exists_untimes_overwriting (db key : String) (value : Value) :
    ∃ e ∈ overwriting db key value, e.untimes db key :=
  ⟨.clear db key, List.mem_cons_self, rfl, rfl⟩

lemma exists_untimes_transferring {source target : String} (hk : k = source ∨ k = target) :
    ∃ e ∈ transferring db source target value, e.untimes db k := by
  rcases hk with rfl | rfl
  · exact ⟨.discard db k, List.mem_cons_self, rfl, rfl⟩
  · obtain ⟨e, he, hclear⟩ := exists_untimes_overwriting db k value
    exact ⟨e, List.mem_cons_of_mem _ he, hclear⟩

end Edits

variable {s : Store} {now pick : Nat} {db d k : String}

/-- A key that is renamed to a name that must be free is renamed exactly if the name was free. -/
lemma renameNew_answer {source target : String} {answer : Answer}
    (h : ((renameNew source target).perform s now pick db).1 = .ok answer) :
    answer = .flag (!s.has db target) := by
  simp only [perform, maybe, Store.renameNew] at h
  split at h
  · rename_i htaken
    cases h
    rw [htaken]
    rfl
  · rename_i hfree
    rw [eq_false_of_ne_true hfree]
    split at h
    · cases h
    · split at h <;> cases h
      rfl

/-- Only a clearing operation takes away the deadline of a key that exists. -/
lemma untimes_of_made {op recorded : Operation} {edits : List Edit} {answer : Answer}
    (hout : op.outcome s pick db = .made recorded edits)
    (hanswer : (op.perform s now pick db).1 = .ok answer) (hkey : s.has d k) {e : Edit}
    (he : e ∈ edits) (h : e.untimes d k) : op.clears db d k answer := by
  cases op <;> simp only [outcome, refusing] at hout
  case setNew key data =>
    cases hout
    split at he
    · cases he
    · rename_i hfree
      obtain ⟨rfl, rfl⟩ := untimes_overwriting he h
      exact absurd hkey hfree
  case renameNew source target =>
    have hflag := renameNew_answer hanswer
    by_cases htaken : s.has db target
    · rw [if_pos htaken] at hout
      cases hout
      cases he
    · rw [if_neg htaken] at hout
      rw [eq_false_of_ne_true htaken] at hflag
      repeat' split at hout
      all_goals cases hout
      simp only [List.mem_cons, List.not_mem_nil, or_false] at he
      rcases he with rfl | rfl
      · exact ⟨hflag, h.1, .inl h.2⟩
      · exact h.elim
  case remove keys =>
    cases hout
    obtain ⟨key, hmem, rfl⟩ := List.mem_map.mp he
    exact ⟨h.1, h.2 ▸ hmem⟩
  case move key target =>
    repeat' split at hout
    all_goals cases hout
    simp only [List.mem_cons, List.not_mem_nil, or_false] at he
    rcases he with rfl | rfl | rfl
    · exact h.elim
    · exact ⟨.inl h.1, h.2⟩
    · exact h.elim
  all_goals repeat' split at hout
  all_goals cases hout
  all_goals
    first
      | exact untimes_overwriting he h
      | exact untimes_transferring he h
      | exact (not_untimes_erasing he h).elim
      | exact (List.not_mem_nil he).elim
      | (obtain rfl := List.mem_singleton.mp he; exact h)
      | skip
  -- A member goes from one set to the other: both are put back.
  simp only [List.mem_cons, List.not_mem_nil, or_false] at he
  rcases he with rfl | rfl <;> exact h.elim

/-- Only an expiration gives a deadline, and only to a key that has none. -/
lemma times_of_made {op recorded : Operation} {edits : List Edit}
    (hout : op.outcome s pick db = .made recorded edits) {e : Edit} (he : e ∈ edits)
    (h : e.times d k) :
    s.deadline? d k = none ∧ d = db ∧ ∃ seconds, op = .expire k seconds := by
  rcases Store.outcome_schedules hout with hnone | ⟨key, seconds, rfl, rfl, -, hfree⟩
  · have hgives := hnone e he
    cases e <;> first | exact h.elim | cases hgives
  · obtain rfl := List.mem_singleton.mp he
    obtain ⟨rfl, rfl⟩ := h
    exact ⟨hfree, rfl, seconds, rfl⟩

/-- A clearing operation takes away the deadline of every key that it clears and that exists. -/
lemma made_of_clears {op recorded : Operation} {edits : List Edit} {answer : Answer}
    (hout : op.outcome s pick db = .made recorded edits)
    (hanswer : (op.perform s now pick db).1 = .ok answer) (h : op.clears db d k answer) :
    ¬ s.has d k ∨ ∃ e ∈ edits, e.untimes d k := by
  cases op <;> simp only [outcome, refusing] at hout
  case renameNew source target =>
    obtain ⟨rfl, rfl, hk⟩ := h
    have hflag := renameNew_answer hanswer
    by_cases htaken : s.has d target
    · rw [htaken] at hflag
      cases hflag
    · rw [if_neg htaken] at hout
      repeat' split at hout
      all_goals cases hout
      rcases hk with rfl | rfl
      · exact .inr ⟨.discard d k, List.mem_cons_self, rfl, rfl⟩
      · exact .inl htaken
  case rename source target =>
    obtain ⟨rfl, hk⟩ := h
    repeat' split at hout
    all_goals cases hout
    exact .inr (exists_untimes_transferring hk)
  case remove keys =>
    obtain ⟨rfl, hk⟩ := h
    cases hout
    exact .inr ⟨.discard d k, List.mem_map_of_mem hk, rfl, rfl⟩
  case move key target =>
    obtain ⟨hd, rfl⟩ := h
    repeat' split at hout
    all_goals cases hout
    rename_i hfree
    rcases hd with rfl | rfl
    · exact .inr ⟨.discard d k, by simp, rfl, rfl⟩
    · exact .inl hfree
  case flush =>
    cases hout
    exact .inr ⟨.flush db, List.mem_cons_self, h⟩
  case flushAll =>
    cases hout
    exact .inr ⟨.flushAll, List.mem_cons_self, trivial⟩
  case set key data =>
    obtain ⟨rfl, rfl⟩ := h
    cases hout
    exact .inr (exists_untimes_overwriting _ _ _)
  case getSet key data =>
    obtain ⟨rfl, rfl⟩ := h
    cases hout
    exact .inr (exists_untimes_overwriting _ _ _)
  case combineInto algebra target keys =>
    obtain ⟨rfl, rfl⟩ := h
    cases hout
    exact .inr (exists_untimes_overwriting _ _ _)
  case add key amount =>
    obtain ⟨rfl, rfl⟩ := h
    split at hout <;> cases hout
    exact .inr (exists_untimes_overwriting _ _ _)
  all_goals exact h.elim

end Operation

namespace Store

/-! ## Calls -/

namespace Call

/-- All calls but those that end keys or put other contents in place. -/
def isOrdinary : Call → Bool
  | .act .expirePass | .act (.restore _ _) | .act (.replace _ _ _) => false
  | _ => true

/-- Does the call succeed in clearing the key `k` of the database `d`? -/
def clears (now : Nat) (s : Store) (d k : String) : Call → Prop
  | .act (.perform op pick db) =>
    ∃ answer, (op.perform s now pick db).1 = .ok answer ∧ op.clears db d k answer
  | .act (.loadSeed entries) => ∃ data, SeedEntry.value d k data ∈ entries
  | _ => False

/-- Does the call succeed in letting the key `k` of the database `d` expire? -/
def expires (now : Nat) (s : Store) (d k : String) : Call → Prop
  | .act (.perform op pick db) =>
    d = db ∧ (∃ seconds, op = .expire k seconds) ∧
      ∃ answer, (op.perform s now pick db).1 = .ok answer
  | _ => False

variable {c : Call} {now : Nat} {s : Store} {d k : String}

lemma not_expires_of_clears (h : c.clears now s d k) : ¬ c.expires now s d k := by
  intro hexpire
  cases c with
  | ask q pick db => exact h
  | act a =>
    cases a with
    | perform op pick db =>
      obtain ⟨answer, -, hclear⟩ := h
      obtain ⟨-, ⟨seconds, rfl⟩, -⟩ := hexpire
      exact hclear
    | _ => exact hexpire

/-- What the edits that a call makes say of a key: they take its deadline away only if the call
clears it, and give it one only if the call lets it expire. -/
structure Makes (c : Call) (now : Nat) (s : Store) (d k : String) (edits : List Edit) : Prop where
  clears : ∀ e ∈ edits, e.untimes d k → s.has d k → c.clears now s d k
  expires : ∀ e ∈ edits, e.times d k → s.deadline? d k = none ∧ c.expires now s d k
  cleared : c.clears now s d k → ¬ s.has d k ∨ ∃ e ∈ edits, e.untimes d k

lemma makes_nil (h : ¬ c.clears now s d k) : c.Makes now s d k [] :=
  ⟨by simp, by simp, fun hclear => absurd hclear h⟩

lemma makes_outcome {op recorded : Operation} {pick : Nat} {db : String} {edits : List Edit}
    {answer : Answer} (hout : op.outcome s pick db = .made recorded edits)
    (hanswer : (op.perform s now pick db).1 = .ok answer) :
    (Call.act (.perform op pick db)).Makes now s d k edits where
  clears := fun _ he huntimes hkey =>
    ⟨answer, hanswer, Operation.untimes_of_made hout hanswer hkey he huntimes⟩
  expires := by
    intro e he htimes
    obtain ⟨hnone, hd, hexpire⟩ := Operation.times_of_made hout he htimes
    exact ⟨hnone, hd, hexpire, answer, hanswer⟩
  cleared := by
    rintro ⟨given, hgiven, hclear⟩
    obtain rfl : given = answer := Except.ok.inj (hgiven.symm.trans hanswer)
    exact Operation.made_of_clears hout hanswer hclear

lemma makes_seed (entries : List SeedEntry) :
    (Call.act (.loadSeed entries)).Makes now s d k (entries.flatMap SeedEntry.edits) where
  clears := by
    intro e he huntimes _
    obtain ⟨entry, hentry, he⟩ := List.mem_flatMap.mp he
    cases entry with
    | select db =>
      obtain rfl := List.mem_singleton.mp he
      exact huntimes.elim
    | value db key data =>
      obtain ⟨rfl, rfl⟩ := Operation.untimes_overwriting he huntimes
      exact ⟨data, hentry⟩
  expires := by
    intro e he htimes
    obtain ⟨entry, hentry, he⟩ := List.mem_flatMap.mp he
    cases entry with
    | select db =>
      obtain rfl := List.mem_singleton.mp he
      exact htimes.elim
    | value db key data =>
      simp only [SeedEntry.edits, Operation.overwriting, List.mem_cons, List.not_mem_nil,
        or_false] at he
      rcases he with rfl | rfl <;> exact htimes.elim
  cleared := by
    rintro ⟨data, hentry⟩
    obtain ⟨e, he, huntimes⟩ := Operation.exists_untimes_overwriting d k (.string data)
    exact .inr ⟨e, List.mem_flatMap.mpr ⟨_, hentry, he⟩, huntimes⟩

/-- What an ordinary call does to the contents of a store, it does by edits. -/
lemma exists_edits (h : c.isOrdinary) (now : Nat) (s : Store) (d k : String) :
    ∃ clock edits, SameContents (s.edit clock edits) (c.run now s) ∧ c.Makes now s d k edits := by
  have hquiet : SameContents s (c.run now s) → ¬ c.clears now s d k →
      ∃ clock edits, SameContents (s.edit clock edits) (c.run now s) ∧ c.Makes now s d k edits :=
    fun hsame hclear => ⟨0, [], hsame, makes_nil hclear⟩
  cases c with
  | ask q pick db => exact hquiet (.refl s) id
  | act a =>
    cases a with
    | perform op pick db =>
      show ∃ clock edits, SameContents (s.edit clock edits) (op.perform s now pick db).2 ∧ _
      rcases Operation.perform_cases s now pick db op with
        ⟨fault, edits, hout, hresult⟩ | ⟨recorded, edits, answer, hout, hresult⟩
      · refine ⟨now, [], ?_, makes_nil ?_⟩
        · rw [hresult]
          exact s.sameContents_of_ensures now (refused_edits hout)
        · rintro ⟨answer, hanswer, -⟩
          rw [hresult] at hanswer
          cases hanswer
      · refine ⟨now, edits, ?_, makes_outcome hout (by rw [hresult])⟩
        rw [hresult]
        exact (s.edit now edits).sameContents_commit db _ _
    | loadSeed entries => exact ⟨0, _, s.sameContents_loadSeed entries, makes_seed entries⟩
    | expirePass => cases h
    | restore wall snapshot => cases h
    | replace wall version data => cases h
    | ensure db => exact hquiet (fun d k => ⟨s.value?_ensure db d k, rfl⟩) id
    | journalUnversioned db command =>
      refine hquiet (fun d k => ?_) id
      have hdatabases := s.databases_record ⟨db, command, [], none⟩
      have hagenda := s.agenda_record ⟨db, command, [], none⟩
      rw [Call.run, Action.run, journalUnversioned, value?, deadline?, hdatabases, hagenda]
      exact ⟨rfl, rfl⟩
    | recordOperation => exact hquiet (.refl s) id
    | takeChanged => exact hquiet (.refl s) id
    | setRecording recording => exact hquiet (.refl s) id
    | takeJournal => exact hquiet (.refl s) id
    | markSaved wall mark => exact hquiet (.refl s) id

/-- A key and its deadline stay unless the call clears the key. -/
lemma keeps_deadline (h : c.isOrdinary) (hclear : ¬ c.clears now s d k) {t : Nat}
    (hkey : s.has d k) (ht : s.deadline? d k = some t) :
    (c.run now s).has d k ∧ (c.run now s).deadline? d k = some t := by
  obtain ⟨clock, edits, hsame, hmakes⟩ := exists_edits h now s d k
  obtain ⟨hvalue, hdeadline⟩ := hsame d k
  obtain ⟨hheld, hleft⟩ := after_of_neither
    (fun e he huntimes => hclear (hmakes.clears e he huntimes hkey)) fun e he htimes => by
      rw [(hmakes.expires e he htimes).1] at ht
      cases ht
  rw [has, hvalue, hdeadline, value?_edit, deadline?_edit, hleft]
  exact ⟨hheld _ hkey, ht⟩

/-- A key stays without a deadline unless the call lets it expire. -/
lemma keeps_untimed (h : c.isOrdinary) (hexpire : ¬ c.expires now s d k)
    (hnone : s.deadline? d k = none) : (c.run now s).deadline? d k = none := by
  obtain ⟨clock, edits, hsame, hmakes⟩ := exists_edits h now s d k
  rw [(hsame d k).2, deadline?_edit, hnone]
  exact deadlineAfterEdits_none
    (fun e he htimes => hexpire (hmakes.expires e he htimes).2) clock

/-- A key that is cleared has no deadline. -/
lemma untimed_of_clears (hs : s.Tidy) (h : c.isOrdinary) (hclear : c.clears now s d k) :
    (c.run now s).deadline? d k = none := by
  have hexpire := not_expires_of_clears hclear
  obtain ⟨clock, edits, hsame, hmakes⟩ := exists_edits h now s d k
  rcases hmakes.cleared hclear with hmissing | hcleared
  · -- A key that did not exist had no deadline either.
    refine keeps_untimed h hexpire ?_
    by_contra hsome
    obtain ⟨t, ht⟩ := Option.ne_none_iff_exists'.mp hsome
    exact hmissing (hs.held d k t ht)
  · rw [(hsame d k).2, deadline?_edit]
    exact deadlineAfterEdits_of_untimes
      (fun e he htimes => hexpire (hmakes.expires e he htimes).2) hcleared clock _

end Call

/-! ## Runs -/

/-- Every call of a run is one that `holds` allows in the store that it finds. -/
def Along (holds : Nat → Store → Call → Prop) : Store → List (Nat × Call) → Prop
  | _, [] => True
  | s, (now, c) :: rest => holds now s c ∧ Along holds (c.run now s) rest

/-- What every allowed call keeps, the run keeps. -/
lemma Along.keeps {holds : Nat → Store → Call → Prop} (kept : Store → Prop)
    (hstep : ∀ now s c, kept s → holds now s c → kept (c.run now s)) {s : Store}
    {calls : List (Nat × Call)} (h : Along holds s calls) (hs : kept s) :
    kept (s.runCalls calls) := by
  induction calls generalizing s with
  | nil => exact hs
  | cons call rest ih =>
    obtain ⟨now, c⟩ := call
    exact ih h.2 (hstep now s c hs h.1)

/-- The call is ordinary and does not clear the key. -/
def Spares (d k : String) (now : Nat) (s : Store) (c : Call) : Prop :=
  c.isOrdinary ∧ ¬ c.clears now s d k

/-- The call is ordinary and does not let the key expire. -/
def LeavesUntimed (d k : String) (now : Nat) (s : Store) (c : Call) : Prop :=
  c.isOrdinary ∧ ¬ c.expires now s d k

/-! ## The time to live -/

/-- The seconds that a key gets if it is given so many: none below zero, and a hundred years at
most. -/
def secondsGranted (seconds : Int) : Nat :=
  min seconds.toNat (100 * 365 * 86400)

lemma deadlineAfter_seconds (start : Nat) (seconds : Int) :
    deadlineAfter start (seconds.toNat * 1000) = start + 1000 * secondsGranted seconds := by
  rw [deadlineAfter, Clock.ticks_millis]
  unfold longestLife secondsGranted
  omega

/-- So many milliseconds are rounded up to so many seconds, which are the fewest that cover them. -/
def RoundsUp (milliseconds seconds : Nat) : Prop :=
  milliseconds ≤ 1000 * seconds ∧ ∀ fewer, milliseconds ≤ 1000 * fewer → seconds ≤ fewer

/-- The time to live is what is left until the deadline, rounded up to seconds. -/
lemma timeToLive_of_deadline {s : Store} {d k : String} {start granted : Nat}
    (hlimit : granted ≤ 100 * 365 * 86400)
    (h : s.deadline? d k = some (start + 1000 * granted)) (passed : Nat) :
    ∃ left : Nat, s.timeToLive (start + passed) d k = left ∧
      RoundsUp (1000 * granted - passed) left := by
  have hleft : start + 1000 * granted - (start + passed) = 1000 * granted - passed := by omega
  refine ⟨(1000 * granted - passed + 999) / 1000, ?_, by omega, fun fewer hfewer => by omega⟩
  rw [timeToLive, h]
  dsimp only
  rw [hleft, Clock.wholeMillis_millis, Decimal.asSigned64, Nat.mod_eq_of_lt (by omega),
    if_pos (by omega)]

lemma timeToLive_of_untimed {s : Store} {d k : String} (h : s.deadline? d k = none) (now : Nat) :
    s.timeToLive now d k = -1 := by
  rw [timeToLive, h]

/-- A key that exists and has no deadline gets the one that is asked for. -/
lemma expire_untimed {s : Store} {db key : String} (hkey : s.has db key)
    (hnone : s.deadline? db key = none) (seconds : Int) (start pick : Nat) :
    ((Operation.expire key seconds).perform s start pick db).1 = .ok .done ∧
      ((Operation.expire key seconds).perform s start pick db).2.has db key ∧
      ((Operation.expire key seconds).perform s start pick db).2.deadline? db key =
        some (start + 1000 * secondsGranted seconds) := by
  have hfree : ¬ (s.deadline? db key).isSome := by simp [hnone]
  simp only [Operation.perform, Operation.maybe, Store.expire, if_pos hkey, if_neg hfree]
  refine ⟨rfl, ?_, ?_⟩
  · rw [has, value?_commit]
    exact hkey
  · rw [deadline?_commit, deadline?_setDeadline, if_pos ⟨rfl, rfl⟩, deadlineAfter_seconds]

/-- **The life of a deadline.**  In every reachable store, at any readings of the clock:

* a key without a deadline that is let expire has what is left of the seconds granted, for as long
  as no call clears it, whatever else the calls do and whether they succeed;
* a key that was cleared has no deadline until it is let expire, whether or not it is there in
  between. -/
theorem Reachable.lifetime {s : Store} (h : Reachable s) (db key : String) :
    (s.has db key → s.deadline? db key = none → ∀ (seconds : Int) (start pick : Nat),
      ∃ timed, (Operation.expire key seconds).perform s start pick db = (.ok .done, timed) ∧
        ∀ calls, Along (Spares db key) timed calls → ∀ passed, ∃ left : Nat,
          (timed.runCalls calls).timeToLive (start + passed) db key = left ∧
            RoundsUp (1000 * secondsGranted seconds - passed) left) ∧
    ∀ now (c : Call), c.isOrdinary → c.clears now s db key →
      ∀ calls, Along (LeavesUntimed db key) (c.run now s) calls → ∀ later,
        ((c.run now s).runCalls calls).timeToLive later db key = -1 := by
  constructor
  · intro hkey hnone seconds start pick
    obtain ⟨hanswer, hheld, htimed⟩ := expire_untimed hkey hnone seconds start pick
    refine ⟨_, Prod.ext hanswer rfl, fun calls hcalls passed => ?_⟩
    have hkept := Along.keeps (fun t => t.has db key ∧
        t.deadline? db key = some (start + 1000 * secondsGranted seconds))
      (fun now t c ht hc => Call.keeps_deadline hc.1 hc.2 ht.1 ht.2) hcalls ⟨hheld, htimed⟩
    exact timeToLive_of_deadline (Nat.min_le_right _ _) hkept.2 passed
  · intro now c hordinary hclear calls hcalls later
    have hnone := Call.untimed_of_clears h.tidy hordinary hclear
    have hkept := Along.keeps (fun t => t.deadline? db key = none)
      (fun now t c ht hc => Call.keeps_untimed hc.1 hc.2 ht) hcalls hnone
    exact timeToLive_of_untimed hkept later

/-- A key that is given more seconds than any key gets, and is then asked to expire at once, written
if it is not there, and used as a list; another key is written. -/
def sparing : List (Nat × Call) :=
  [(8, .act (.perform (.expire "a" (-5)) 0 "0")), (9, .act (.perform (.setNew "a" [1]) 0 "0")),
    (2, .act (.perform (.push "a" [] .head) 0 "0")), (30, .act (.perform (.set "b" []) 0 "0"))]

/-- A key that is taken out and written again. -/
def reviving : List (Nat × Call) :=
  [(40, .act (.perform (.remove ["b"]) 0 "0")), (41, .act (.perform (.set "b" []) 0 "0"))]

theorem Reachable.lifetime_sparing :
    let written := ((Operation.set "a" []).perform (Store.new true) 3 0 "0").2
    let rename := Call.act (.perform (.rename "a" "b") 0 "0")
    Reachable written ∧
      (∃ timed, (Operation.expire "a" 0x7FFFFFFFFFFFFFFF).perform written 7 0 "0" =
          (.ok .done, timed) ∧
        Along (Spares "0" "a") timed sparing ∧ ∀ passed, ∃ left : Nat,
          (timed.runCalls sparing).timeToLive (7 + passed) "0" "a" = left ∧
            RoundsUp (1000 * secondsGranted 0x7FFFFFFFFFFFFFFF - passed) left) ∧
      ∀ later, ((rename.run 8 written).runCalls reviving).timeToLive later "0" "b" = -1 := by
  intro written rename
  have hwritten : Reachable written := (Reachable.new true).run 3 (.perform (.set "a" []) 0 "0")
  obtain ⟨hlives, -⟩ := hwritten.lifetime "0" "a"
  obtain ⟨-, hcleared⟩ := hwritten.lifetime "0" "b"
  obtain ⟨timed, htimed, hleft⟩ :=
    hlives (by decide +kernel) (by decide +kernel) 0x7FFFFFFFFFFFFFFF 7 0
  have hspares : Along (Spares "0" "a") timed sparing := by
    refine ⟨⟨rfl, ?_⟩, ⟨rfl, ?_⟩, ⟨rfl, ?_⟩, ⟨rfl, ?_⟩, trivial⟩ <;> rintro ⟨answer, -, hclears⟩
    · exact hclears
    · exact hclears
    · exact hclears
    · exact absurd hclears.2 (by decide)
  have hrenames : rename.clears 8 written "0" "b" := ⟨.done, by decide +kernel, rfl, .inr rfl⟩
  have hleaves : Along (LeavesUntimed "0" "b") (rename.run 8 written) reviving := by
    refine ⟨⟨rfl, ?_⟩, ⟨rfl, ?_⟩, trivial⟩ <;> rintro ⟨-, ⟨seconds, hexpires⟩, -⟩ <;> cases hexpires
  exact ⟨hwritten, ⟨timed, htimed, hspares, hleft sparing hspares⟩,
    hcleared 8 rename rfl hrenames reviving hleaves⟩

end Store

end ReplicatedStore
