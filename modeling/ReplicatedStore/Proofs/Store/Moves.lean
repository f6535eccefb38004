import Mathlib.Algebra.Ring.Nat
import Mathlib.Data.Finset.Card
import ReplicatedStore.Proofs.Store.Lifetime
import ReplicatedStore.Proofs.Store.SetAlgebra

/-!
# Moves

Moving a member, renaming a key and moving a key to another database all take something out of one
place and put it into another.  `Reachable.moves_conserve` says that nothing is lost or duplicated
on the way, also where the two places are the same.

For members it comes down to one line (`inSet_moved`): a key holds what it held, but for the member
that left the source and came to the target.  Where source and target are one set, leaving and
coming cancel, since the model takes the member out before it puts it in.

For keys `Carried` says what became of the source, of the target and of every third key.  The number
of keys follows from it, by counting where keys are (`addresses`): the source is taken out of a
finite set and the target put in, which makes one key less exactly where the target was there.
Renaming clears the deadline of the target only if it may take the place of another key.  Where the
target must be free, nothing clears its deadline; that there is none is an invariant of reachable
stores (`Tidy`), where what has a deadline is held.
-/

open Std (ExtTreeMap ExtTreeSet)

namespace ReplicatedStore.Store

variable {s t : Store} {db key d k : String}

/-! ## How many keys there are -/

/-- How many keys all databases hold together. -/
def keyCount (s : Store) : Nat :=
  (s.databases.keys.map s.size).sum

/-- The database and the name of every key. -/
def addresses (s : Store) : List (String × String) :=
  s.databases.keys.flatMap fun db => (s.databases[db]?.getD ∅).keys.map fun key => (db, key)

lemma mem_addresses : (d, k) ∈ s.addresses ↔ s.has d k := by
  simp only [addresses, List.mem_flatMap, List.mem_map, ExtTreeMap.mem_keys, Prod.mk.injEq, has,
    value?]
  constructor
  · rintro ⟨db, hdb, key, hkey, rfl, rfl⟩
    cases h : s.databases[db]? <;> simp_all
  · intro hkey
    cases h : s.databases[d]? with
    | none => simp [h] at hkey
    | some keys =>
      refine ⟨d, ?_, k, ?_, rfl, rfl⟩
      · exact ExtTreeMap.mem_iff_isSome_getElem?.mpr (by simp [h])
      · exact ExtTreeMap.mem_iff_isSome_getElem?.mpr (by simpa [h] using hkey)

lemma nodup_addresses (s : Store) : s.addresses.Nodup := by
  refine List.nodup_flatMap.mpr ⟨?_, ?_⟩
  · intro db _
    exact ExtTreeMap.nodup_keys.map fun key key' h => (Prod.mk.inj h).2
  · refine ExtTreeMap.nodup_keys.imp fun {db db'} hne => ?_
    simp only [Function.onFun, List.disjoint_left, List.mem_map]
    rintro _ ⟨key, -, rfl⟩ ⟨key', -, hsame⟩
    exact hne (Prod.mk.inj hsame).1.symm

lemma length_addresses (s : Store) : s.addresses.length = s.keyCount := by
  have hsize : ∀ db, (s.databases[db]?.getD ∅).keys.length = s.size db := by
    intro db
    rw [ExtTreeMap.length_keys, size]
    cases s.databases[db]? <;> simp
  simp only [addresses, keyCount, List.length_flatMap, List.length_map, hsize]

lemma card_addresses (s : Store) : s.addresses.toFinset.card = s.keyCount := by
  rw [List.toFinset_card_of_nodup s.nodup_addresses, length_addresses]

/-! ## From one key to another -/

/-- What the key `k` of the database `d` held went to the key `k'` of `d'`, neither of them has a
deadline, and every third key is as before. -/
structure Carried (s t : Store) (d k d' k' : String) : Prop where
  held : ∃ value, s.value? d k = some value ∧ t.value? d' k' = some value
  gone : t.value? d k = none
  untimed : t.deadline? d k = none ∧ t.deadline? d' k' = none
  others : ∀ db key, ¬ (db = d ∧ key = k) → ¬ (db = d' ∧ key = k') →
    t.value? db key = s.value? db key ∧ t.deadline? db key = s.deadline? db key

section Carried

variable {d' k' : String}

lemma Carried.commit (h : Carried s t d k d' k') (db command : String) (args : List Bytes) :
    Carried s (t.commit db command args) d k d' k' where
  held := by simpa using h.held
  gone := by simpa using h.gone
  untimed := by simpa using h.untimed
  others := fun d k hfrom hto => by simpa using h.others d k hfrom hto

/-- A database that was made to exist has no keys. -/
lemma Carried.of_ensure (h : Carried (s.ensure db) t d k d' k') : Carried s t d k d' k' where
  held := by simpa using h.held
  gone := h.gone
  untimed := h.untimed
  others := fun d k hfrom hto => by simpa using h.others d k hfrom hto

/-- The keys afterwards are those before, with the source taken out and the target put in. -/
lemma Carried.addresses (h : Carried s t d k d' k') :
    t.addresses.toFinset = insert (d', k') (s.addresses.toFinset.erase (d, k)) := by
  obtain ⟨⟨value, hsource, htarget⟩, hgone, -, hothers⟩ := h
  ext ⟨db, key⟩
  simp only [List.mem_toFinset, mem_addresses, Finset.mem_insert, Finset.mem_erase, ne_eq,
    Prod.mk.injEq]
  by_cases hto : db = d' ∧ key = k'
  · obtain ⟨rfl, rfl⟩ := hto
    simp [has, htarget]
  · by_cases hfrom : db = d ∧ key = k
    · obtain ⟨rfl, rfl⟩ := hfrom
      simp [has, hgone, hto]
    · simp [has, (hothers db key hfrom hto).1, hfrom, hto]

/-- No key is lost or made, but for the one that the target replaced. -/
lemma Carried.keyCount (h : Carried s t d k d' k') :
    t.keyCount + (s.has d' k').toNat = s.keyCount := by
  have hsame := h.addresses
  obtain ⟨⟨value, hsource, htarget⟩, hgone, -, -⟩ := h
  have hne : (d', k') ≠ (d, k) := by
    rintro heq
    obtain ⟨rfl, rfl⟩ := Prod.mk.inj heq
    simp [hgone] at htarget
  have hmem : (d, k) ∈ s.addresses.toFinset := by
    simp [mem_addresses, has, hsource]
  have hcard := Finset.card_erase_add_one hmem
  rw [← card_addresses, ← card_addresses, hsame, ← hcard]
  -- putting the target in makes up for the source, unless the target was there
  cases hfree : s.has d' k' with
  | false =>
    have hnew : (d', k') ∉ s.addresses.toFinset.erase (d, k) := by
      simp [mem_addresses, hfree]
    simp [Finset.card_insert_of_notMem hnew]
  | true =>
    have hold : (d', k') ∈ s.addresses.toFinset.erase (d, k) := by
      simp [mem_addresses, hfree, hne]
    simp [Finset.insert_eq_of_mem hold]

end Carried

/-! ## Renaming and moving keys -/

section Keys

variable {now pick : Nat} {source target : String} {value : Value} {answer : Answer}
  {edits : List Edit} {recorded op : Operation}

lemma carried_transferring (hne : source ≠ target) (hvalue : s.value? db source = some value)
    (now : Nat) :
    Carried s (s.edit now (Operation.transferring db source target value)) db source db target where
  held := ⟨value, hvalue, by simp [Operation.transferring, Operation.overwriting, Edit.apply,
    value?_put]⟩
  gone := by
    simp [Operation.transferring, Operation.overwriting, Edit.apply, value?_put, value?_discard,
      hne]
  untimed := by
    simp [Operation.transferring, Operation.overwriting, Edit.apply, deadline?_clearDeadline,
      deadline?_discard]
  others := by
    intro d k hfrom hto
    simp [Operation.transferring, Operation.overwriting, Edit.apply, value?_put, value?_discard,
      deadline?_clearDeadline, deadline?_discard, hfrom, hto]

/-- Where a name is free there is no deadline either, so it need not be cleared. -/
lemma carried_freely {d' k' : String} (h : s.Tidy) (hvalue : s.value? d k = some value)
    (hfree : s.has d' k' = false) (now : Nat) :
    Carried s (s.edit now [.discard d k, .put d' k' value]) d k d' k' where
  held := ⟨value, hvalue, by simp [Edit.apply, value?_put]⟩
  gone := by
    have hne : ¬ (d = d' ∧ k = k') := by
      rintro ⟨rfl, rfl⟩
      simp [has, hvalue] at hfree
    simp [Edit.apply, value?_put, value?_discard, hne]
  untimed := by
    have hnone : s.deadline? d' k' = none := by
      rw [Option.eq_none_iff_forall_ne_some]
      intro deadline hdeadline
      simpa [hfree] using h.held d' k' deadline hdeadline
    simp [Edit.apply, deadline?_discard, hnone]
  others := by
    intro db key hfrom hto
    simp [Edit.apply, value?_put, value?_discard, deadline?_discard, hfrom, hto]

/-- What renaming comes to, once the new name may be taken. -/
lemma renaming_made {write : Value → List Edit}
    (h : (if source = target then Operation.Outcome.refused .sameName []
      else match s.value? db source with
        | none => .refused (.missing source) [.ensure db]
        | some value => .made op (write value)) = .made recorded edits) :
    source ≠ target ∧ ∃ value, s.value? db source = some value ∧ edits = write value := by
  by_cases hsame : source = target
  · simp [hsame] at h
  · rw [if_neg hsame] at h
    cases hvalue : s.value? db source with
    | none => simp [hvalue] at h
    | some value =>
      simp only [hvalue, Operation.Outcome.made.injEq] at h
      exact ⟨hsame, value, rfl, h.2.symm⟩

lemma move_made (h : (Operation.move key target).outcome s pick db = .made recorded edits) :
    s.has target key = false ∧ ∃ value, s.value? db key = some value ∧
      edits = [.ensure target, .discard db key, .put target key value] := by
  simp only [Operation.outcome] at h
  cases hvalue : s.value? db key with
  | none => simp [hvalue] at h
  | some value =>
    by_cases htaken : s.has target key
    · simp [hvalue, htaken] at h
    · simp only [hvalue, htaken, Bool.false_eq_true, if_false, Operation.Outcome.made.injEq] at h
      exact ⟨by simpa using htaken, value, rfl, h.2.symm⟩

lemma carried_rename
    (h : (Operation.rename source target).perform s now pick db = (.ok answer, t)) :
    Carried s t db source db target := by
  obtain ⟨recorded, edits, hout, rfl⟩ := Operation.made_of_ok h
  rw [Operation.outcome] at hout
  obtain ⟨hne, value, hvalue, rfl⟩ := renaming_made hout
  exact (carried_transferring hne hvalue now).commit _ _ _

lemma carried_renameNew (hs : s.Tidy)
    (h : (Operation.renameNew source target).perform s now pick db = (.ok (.flag true), t)) :
    s.has db target = false ∧ Carried s t db source db target := by
  have hfree : s.has db target = false := by
    have hanswer := Operation.renameNew_answer (congrArg Prod.fst h)
    simpa using (Answer.flag.inj hanswer).symm
  obtain ⟨recorded, edits, hout, rfl⟩ := Operation.made_of_ok h
  simp only [Operation.outcome, hfree, Bool.false_eq_true, if_false] at hout
  obtain ⟨-, value, hvalue, rfl⟩ := renaming_made hout
  exact ⟨hfree, (carried_freely hs hvalue hfree now).commit _ _ _⟩

lemma carried_move (hs : s.Tidy)
    (h : (Operation.move key target).perform s now pick db = (.ok answer, t)) :
    s.has target key = false ∧ Carried s t db key target key := by
  obtain ⟨recorded, edits, hout, rfl⟩ := Operation.made_of_ok h
  obtain ⟨hfree, value, hvalue, rfl⟩ := move_made hout
  have hheld : (s.ensure target).value? db key = some value := by simpa using hvalue
  have hstill : (s.ensure target).has target key = false := by simpa [has] using hfree
  rw [edit_cons]
  exact ⟨hfree, (carried_freely (hs.ensure target) hheld hstill now).of_ensure.commit _ _ _⟩

end Keys

/-! ## Moving members -/

/-- What moving a member from one set to another leaves, which may be the same set. -/
structure MemberMoved (s t : Store) (db source target : String) (member : Bytes) (moved : Bool) :
    Prop where
  /-- A member is moved exactly if it is in the source. -/
  moved_iff : moved = true ↔ s.InSet db source member
  /-- If it is not, no key changes. -/
  idle : moved = false → ∀ d k, t.value? d k = s.value? d k
  /-- If it is, it is in the target afterwards. -/
  arrived : moved = true → t.InSet db target member
  /-- It is in the source no more, unless that is the target. -/
  departed : source ≠ target → ¬ t.InSet db source member
  /-- All other members are as before. -/
  others : ∀ k m, m ≠ member → (t.InSet db k m ↔ s.InSet db k m)
  /-- So both sets together hold the same members. -/
  union : ∀ m, t.InSet db source m ∨ t.InSet db target m ↔
    s.InSet db source m ∨ s.InSet db target m
  /-- Every third key holds the same. -/
  frame : ∀ d k, ¬ (d = db ∧ (k = source ∨ k = target)) → t.value? d k = s.value? d k
  /-- All deadlines are as before. -/
  deadlines : ∀ d k, t.deadline? d k = s.deadline? d k

section Members

variable {now pick : Nat} {source target : String} {member m : Bytes} {members : Members}
  {found held : Option Members} {answer : Answer}

lemma inSet_put :
    (s.put db key (.set members)).InSet d k m ↔
      if d = db ∧ k = key then m ∈ members else s.InSet d k m := by
  simp only [InSet, value?_put]
  split <;> simp

lemma inSet_commit {command : String} {args : List Bytes} :
    (s.commit db command args).InSet d k m ↔ s.InSet d k m := by
  simp [InSet]

lemma inSet_of_set? (h : s.set? db key = .ok found) : s.InSet db key m ↔ m ∈ found.getD ∅ := by
  simp only [set?] at h
  split at h <;> cases h <;> simp_all [InSet]

lemma foundContains_iff : foundContains found member = true ↔ member ∈ found.getD ∅ := by
  cases found <;> simp [foundContains]

lemma mem_erase_iff : m ∈ members.erase member ↔ m ∈ members ∧ m ≠ member := by
  rw [ExtTreeSet.mem_erase, Ne, Std.compare_eq_iff_eq, and_comm, ne_comm]

lemma erase_of_not_mem (h : member ∉ members) : members.erase member = members := by
  apply ExtTreeSet.ext_mem
  intro m
  rw [mem_erase_iff, and_iff_left_iff_imp]
  rintro hm rfl
  exact h hm

lemma value?_of_set? (h : s.set? db key = .ok (some members)) :
    s.value? db key = some (.set members) := by
  simp only [set?] at h
  split at h <;> cases h
  assumption

/-- Moving a member changes nothing if the source does not hold it; otherwise it takes the member
out of the source and then puts it into the target. -/
lemma moveMember_cases
    (h : (Operation.moveMember source target member).perform s now pick db = (.ok answer, t)) :
    (¬ s.InSet db source member ∧ answer = .flag false ∧
      ∃ command args, t = s.commit db command args) ∨
    (s.InSet db source member ∧ answer = .flag true ∧
      ∃ members held command args, s.set? db source = .ok (some members) ∧
        s.set? db target = .ok held ∧
        t = ((s.put db source (.set (members.erase member))).put db target
          (.set (Operation.joined s db source target members member))).commit db command args) := by
  have hanswer := congrArg Prod.fst h
  obtain ⟨recorded, edits, hout, rfl⟩ := Operation.made_of_ok h
  simp only [Operation.perform, Operation.maybe, moveMember] at hanswer
  simp only [Operation.outcome] at hout
  cases htarget : s.set? db target with
  | error fault => simp [htarget, Except.map] at hanswer
  | ok held =>
    cases hsource : s.set? db source with
    | error fault => simp [htarget, hsource, Except.map] at hanswer
    | ok found =>
      have hin : s.InSet db source member ↔ foundContains found member = true := by
        rw [foundContains_iff, inSet_of_set? hsource]
      simp only [htarget, hsource, Except.map, Except.ok.injEq] at hanswer
      simp only [htarget, hsource, Operation.refusing] at hout
      rw [hin, ← hanswer]
      cases found with
      | none =>
        simp only [Operation.Outcome.made.injEq] at hout
        refine .inl ⟨by simp [foundContains], by simp [foundContains], recorded.command,
          recorded.arguments db, ?_⟩
        rw [← hout.2, edit_nil]
      | some members =>
        simp only [Operation.Outcome.made.injEq] at hout
        obtain ⟨-, rfl⟩ := hout
        by_cases hmember : members.contains member
        · refine .inr ⟨hmember, by rw [foundContains, hmember], members, held, recorded.command,
            recorded.arguments db, rfl, rfl, ?_⟩
          rw [if_pos hmember]
          simp [Edit.apply]
        · refine .inl ⟨hmember, by rw [foundContains, eq_false_of_ne_true hmember],
            recorded.command, recorded.arguments db, ?_⟩
          rw [if_neg hmember, erase_of_not_mem (by simpa using hmember)]
          -- the set is put back as it was found
          simp [Edit.apply, put_of_held (value?_of_set? hsource)]

lemma mem_joined (hsource : s.set? db source = .ok (some members))
    (htarget : s.set? db target = .ok held) :
    m ∈ Operation.joined s db source target members member ↔
      m = member ∨ s.InSet db target m ∧ ¬ (target = source ∧ m = member) := by
  rw [Operation.joined, ExtTreeSet.mem_insert, Std.compare_eq_iff_eq, eq_comm]
  -- a target that is the source is read after the member was taken out
  by_cases hsame : source = target
  · subst hsame
    rw [if_pos rfl, mem_erase_iff]
    simp [inSet_of_set? hsource]
  · simp [hsame, Ne.symm hsame, htarget, Except.toOption, inSet_of_set? htarget]

/-- After a member was moved, every key of the database holds the members it held, but for the one
that left the source and came to the target. -/
lemma inSet_moved (member : Bytes) (hsource : s.set? db source = .ok (some members))
    (htarget : s.set? db target = .ok held) (k : String) (m : Bytes) :
    ((s.put db source (.set (members.erase member))).put db target
        (.set (Operation.joined s db source target members member))).InSet db k m ↔
      k = target ∧ m = member ∨ s.InSet db k m ∧ ¬ (k = source ∧ m = member) := by
  simp only [inSet_put, true_and]
  by_cases hto : k = target
  · subst hto
    simp [mem_joined hsource htarget]
  · by_cases hfrom : k = source
    · subst hfrom
      rw [if_neg hto, if_pos rfl, mem_erase_iff]
      simp [hto, inSet_of_set? hsource]
    · simp [hto, hfrom]

lemma memberMoved_moveMember
    (h : (Operation.moveMember source target member).perform s now pick db = (.ok answer, t)) :
    ∃ moved, answer = .flag moved ∧ MemberMoved s t db source target member moved := by
  rcases moveMember_cases h with
    ⟨hout, hanswer, command, args, rfl⟩ |
    ⟨hin, hanswer, members, held, command, args, hsource, htarget, rfl⟩
  · refine ⟨false, hanswer, ?_⟩
    constructor <;> simp [hout, inSet_commit]
  · have hall := inSet_moved member hsource htarget
    refine ⟨true, hanswer, ?_⟩
    constructor
    case moved_iff => simp [hin]
    case idle => simp
    case arrived => simp [inSet_commit, hall]
    case departed =>
      intro hne
      simp [inSet_commit, hall, hne]
    case others =>
      intro k m hm
      simp [inSet_commit, hall, hm]
    case union =>
      intro m
      by_cases hm : m = member
      · subst hm
        simp [inSet_commit, hall, hin]
      · simp [inSet_commit, hall, hm]
    case frame =>
      intro d k hother
      have hsource : ¬ (d = db ∧ k = source) := fun h => hother ⟨h.1, .inl h.2⟩
      have htarget : ¬ (d = db ∧ k = target) := fun h => hother ⟨h.1, .inr h.2⟩
      simp [value?_put, hsource, htarget]
    case deadlines => simp

end Members

/-- **Moves lose and duplicate nothing.**  Moving a member leaves two sets that hold the same
members together; renaming a key or moving it to another database carries what it held to a key
without a deadline, takes the key out, and leaves as many keys as there were, less one exactly where
renaming replaced a key. -/
theorem Reachable.moves_conserve {s : Store} (h : s.Reachable) (now pick : Nat) (db : String) :
    (∀ source target member answer t,
      (Operation.moveMember source target member).perform s now pick db = (.ok answer, t) →
      ∃ moved, answer = .flag moved ∧ MemberMoved s t db source target member moved) ∧
    (∀ source target answer t,
      (Operation.rename source target).perform s now pick db = (.ok answer, t) →
      Carried s t db source db target ∧
        t.keyCount + (s.has db target).toNat = s.keyCount) ∧
    (∀ source target t,
      (Operation.renameNew source target).perform s now pick db = (.ok (.flag true), t) →
      Carried s t db source db target ∧ t.keyCount = s.keyCount) ∧
    (∀ key target answer t,
      (Operation.move key target).perform s now pick db = (.ok answer, t) →
      Carried s t db key target key ∧ t.keyCount = s.keyCount) := by
  refine ⟨?member, ?rename, ?renameNew, ?move⟩
  case member => exact fun _ _ _ _ _ => memberMoved_moveMember
  case rename =>
    intro source target answer t hperform
    have hcarried := carried_rename hperform
    exact ⟨hcarried, hcarried.keyCount⟩
  case renameNew =>
    intro source target t hperform
    obtain ⟨hfree, hcarried⟩ := carried_renameNew h.tidy hperform
    have hcount := hcarried.keyCount
    rw [hfree] at hcount
    exact ⟨hcarried, by simpa using hcount⟩
  case move =>
    intro key target answer t hperform
    obtain ⟨hfree, hcarried⟩ := carried_move h.tidy hperform
    have hcount := hcarried.keyCount
    rw [hfree] at hcount
    exact ⟨hcarried, by simpa using hcount⟩

/-- A set that is its own target, and a key with an end that takes the place of another, a name that
was free and a place in a database that was not there. -/
theorem Reachable.moves_conserve_replacing :
    twoSets.deadline? "0" "a" = some 10000 ∧ ∃ same renamed fresh moved,
      (Operation.moveMember "a" "a" [1]).perform twoSets 3 0 "0" = (.ok (.flag true), same) ∧
        MemberMoved twoSets same "0" "a" "a" [1] true ∧
      (Operation.rename "a" "text").perform twoSets 3 0 "0" = (.ok .done, renamed) ∧
        Carried twoSets renamed "0" "a" "0" "text" ∧ renamed.keyCount + 1 = twoSets.keyCount ∧
      (Operation.renameNew "a" "c").perform twoSets 3 0 "0" = (.ok (.flag true), fresh) ∧
        Carried twoSets fresh "0" "a" "0" "c" ∧ fresh.keyCount = twoSets.keyCount ∧
      (Operation.move "a" "9").perform twoSets 3 0 "0" = (.ok .done, moved) ∧
        Carried twoSets moved "0" "a" "9" "a" ∧ moved.keyCount = twoSets.keyCount := by
  have hreachable : twoSets.Reachable := (Reachable.new true).runs 0 _
  obtain ⟨hmember, hrename, hnew, hmove⟩ := hreachable.moves_conserve 3 0 "0"
  have hsame : (Operation.moveMember "a" "a" [1]).perform twoSets 3 0 "0" = (.ok (.flag true), _) :=
    Prod.ext (by decide +kernel) rfl
  have hrenamed : (Operation.rename "a" "text").perform twoSets 3 0 "0" = (.ok .done, _) :=
    Prod.ext (by decide +kernel) rfl
  have hfresh : (Operation.renameNew "a" "c").perform twoSets 3 0 "0" = (.ok (.flag true), _) :=
    Prod.ext (by decide +kernel) rfl
  have hmoved : (Operation.move "a" "9").perform twoSets 3 0 "0" = (.ok .done, _) :=
    Prod.ext (by decide +kernel) rfl
  obtain ⟨moved, hflag, hwhole⟩ := hmember _ _ _ _ _ hsame
  obtain rfl : true = moved := Answer.flag.inj hflag
  obtain ⟨hcarried, hcount⟩ := hrename _ _ _ _ hrenamed
  obtain ⟨hnamed, hkept⟩ := hnew _ _ _ hfresh
  obtain ⟨hthere, hstill⟩ := hmove _ _ _ _ hmoved
  have hreplaced : twoSets.has "0" "text" = true := by decide +kernel
  rw [hreplaced] at hcount
  exact ⟨by decide +kernel, _, _, _, _, hsame, hwhole, hrenamed, hcarried, hcount, hfresh, hnamed,
    hkept, hmoved, hthere, hstill⟩

end ReplicatedStore.Store
