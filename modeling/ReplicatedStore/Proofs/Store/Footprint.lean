import ReplicatedStore.Proofs.Store.Outcome

/-!
# Which keys an operation depends on, and which it changes

`Operation.reads` are the keys whose contents decide how an operation ends, `Operation.settles` the
keys that it leaves in a state which does not depend on what they held, and `Operation.footprint`
the keys that it may change at all.  No other key is touched (`outcome_touches`, `made_frame`), and
stores that agree on what an operation reads agree on how it ends (`outcome_congr`).

An operation is recorded as one that does the same again (`outcome_recorded`): a replica needs no
luck to take the member that was picked at random, and no old value to be answered.
-/

namespace ReplicatedStore

open Store (Edit)

namespace Operation

/-! ## Recorded operations -/

/-- The operation that a change records, carried out on the same store, makes the same edits and
records itself, whatever is picked. -/
lemma outcome_recorded {op recorded : Operation} {s : Store} {pick : Nat} {db : String}
    {edits : List Edit} (h : op.outcome s pick db = .made recorded edits) (pick' : Nat) :
    recorded.outcome s pick' db = .made recorded edits := by
  cases op
  case popMember key =>
    simp only [outcome, refusing] at h
    split at h
    · cases h
    · rename_i found hfound
      split at h
      · cases h
        simp [outcome, refusing, hfound]
      · rename_i hnone
        cases h
        -- Nothing can be picked only where there is nothing to pick from.
        have hempty : (found.getD ∅).toList = [] := by
          by_contra hne
          have hpos : 0 < (found.getD ∅).toList.length := List.length_pos_iff.mpr hne
          rw [List.getElem?_eq_none_iff] at hnone
          have := Nat.mod_lt pick hpos
          omega
        simp [outcome, refusing, hfound, hempty]
  all_goals simp only [outcome, refusing] at h
  all_goals repeat' split at h
  all_goals cases h
  all_goals simp_all [outcome, refusing]

/-! ## Keys that are read, needed and settled -/

/-- Do the contents of the key `k` of the database `d` decide how the operation on `db` ends? -/
def reads (db d k : String) : Operation → Prop
  | .set _ _ | .getSet _ _ | .remove _ | .flush | .flushAll | .select => False
  | .setNew key _ | .add key _ | .expire key _ | .push key _ _ | .trim key _ _ | .setItem key _ _
  | .removeItems key _ _ | .pop key _ | .addMember key _ | .removeMember key _ | .popMember key =>
    d = db ∧ k = key
  | .rename source _ => d = db ∧ k = source
  | .renameNew source target | .moveMember source target _ => d = db ∧ (k = source ∨ k = target)
  | .move key target => (d = db ∨ d = target) ∧ k = key
  | .combineInto _ _ keys => d = db ∧ k ∈ keys

/-- Does the key belong to those that the operation on `db` may change?  An operation of set algebra
reads the sets that it works on, and changes only its target. -/
def footprint (db d k : String) : Operation → Prop
  | .set key _ | .getSet key _ | .setNew key _ | .add key _ | .expire key _ | .push key _ _
  | .trim key _ _ | .setItem key _ _ | .removeItems key _ _ | .pop key _ | .addMember key _
  | .removeMember key _ | .popMember key | .combineInto _ key _ => d = db ∧ k = key
  | .remove keys => d = db ∧ k ∈ keys
  | .rename source target | .renameNew source target | .moveMember source target _ =>
    d = db ∧ (k = source ∨ k = target)
  | .move key target => (d = db ∨ d = target) ∧ k = key
  | .flush => d = db
  | .flushAll => True
  | .select => False

/-- Does the operation leave the key in a state that does not depend on what was there? -/
def settles (db d k : String) : Operation → Prop
  | .set key _ | .getSet key _ => d = db ∧ k = key
  | .remove keys => d = db ∧ k ∈ keys
  | .rename _ target | .combineInto _ target _ => d = db ∧ k = target
  | .flush => d = db
  | .flushAll => True
  | _ => False

end Operation

namespace Store.Edit

/-- Does the edit change what a key holds, or its deadline? -/
def touches (d k : String) : Edit → Prop
  | .put db key _ | .discard db key | .clear db key | .schedule db key _ => d = db ∧ k = key
  | .flush db => d = db
  | .flushAll => True
  | .ensure _ => False

lemma valueAt_of_not_touches {e : Edit} {d k : String} (h : ¬ e.touches d k)
    (old : Option Value) : e.valueAt d k old = old := by
  cases e with
  | put db key value => exact if_neg h
  | discard db key => exact if_neg h
  | flush db => exact if_neg h
  | flushAll => exact absurd trivial h
  | ensure db => rfl
  | clear db key => rfl
  | schedule db key life => rfl

lemma deadlineAt_of_not_touches {e : Edit} {d k : String} (h : ¬ e.touches d k) (now : Nat)
    (old : Option Nat) : e.deadlineAt now d k old = old := by
  cases e with
  | discard db key => exact if_neg h
  | clear db key => exact if_neg h
  | schedule db key life => exact if_neg h
  | flush db => exact if_neg h
  | flushAll => exact absurd trivial h
  | ensure db => rfl
  | put db key value => rfl

end Store.Edit

namespace Store

/-- Edits that do not touch a key leave it as it was. -/
lemma after_of_not_touches {edits : List Edit} {d k : String} (h : ∀ e ∈ edits, ¬ e.touches d k) :
    (∀ old, valueAfter edits d k old = old) ∧
      ∀ now old, deadlineAfterEdits now edits d k old = old := by
  induction edits with
  | nil => exact ⟨fun _ => rfl, fun _ _ => rfl⟩
  | cons e rest ih =>
    obtain ⟨hvalue, hdeadline⟩ := ih fun e' he' => h e' (List.mem_cons_of_mem _ he')
    have he := h e List.mem_cons_self
    constructor
    · intro old
      show valueAfter rest d k (e.valueAt d k old) = old
      rw [hvalue, Edit.valueAt_of_not_touches he]
    · intro now old
      show deadlineAfterEdits now rest d k (e.deadlineAt now d k old) = old
      rw [hdeadline, Edit.deadlineAt_of_not_touches he]

end Store

namespace Operation

lemma touches_overwriting {db key d k : String} {value : Value} {e : Edit}
    (he : e ∈ overwriting db key value) (ht : e.touches d k) : d = db ∧ k = key := by
  simp only [overwriting, List.mem_cons, List.not_mem_nil, or_false] at he
  rcases he with rfl | rfl <;> exact ht

lemma touches_transferring {db source target d k : String} {value : Value} {e : Edit}
    (he : e ∈ transferring db source target value) (ht : e.touches d k) :
    d = db ∧ (k = source ∨ k = target) := by
  rcases List.mem_cons.mp he with rfl | he
  · exact ⟨ht.1, .inl ht.2⟩
  · obtain ⟨hd, hk⟩ := touches_overwriting he ht
    exact ⟨hd, .inr hk⟩

lemma touches_erasing {db key d k : String} {found : Option Members} {member : Bytes} {e : Edit}
    (he : e ∈ erasing db key found member) (ht : e.touches d k) : d = db ∧ k = key := by
  cases found with
  | none => cases he
  | some members =>
    obtain rfl := List.mem_singleton.mp he
    exact ht

/-- Two edits, one of the source and one of the target. -/
lemma touches_pair {db source target d k : String} {first second e : Edit}
    (hfirst : first.touches d k → d = db ∧ k = source)
    (hsecond : second.touches d k → d = db ∧ k = target) (he : e ∈ [first, second])
    (ht : e.touches d k) : d = db ∧ (k = source ∨ k = target) := by
  simp only [List.mem_cons, List.not_mem_nil, or_false] at he
  rcases he with rfl | rfl
  · exact (hfirst ht).imp_right .inl
  · exact (hsecond ht).imp_right .inr

/-- An operation touches nothing outside its footprint. -/
lemma outcome_touches {op recorded : Operation} {s : Store} {pick : Nat} {db d k : String}
    {edits : List Edit} (h : op.outcome s pick db = .made recorded edits) {e : Edit}
    (he : e ∈ edits) (ht : e.touches d k) : op.footprint db d k := by
  cases op <;> simp only [outcome, refusing] at h
  all_goals repeat' split at h
  all_goals cases h
  all_goals simp only [footprint]
  all_goals
    first
      | exact touches_overwriting he ht
      | exact touches_erasing he ht
      | exact touches_transferring he ht
      | exact touches_pair id id he ht
      | exact (List.not_mem_nil he).elim
      | (obtain rfl := List.mem_singleton.mp he; exact ht)
      | skip
  · obtain ⟨key, hkey, rfl⟩ := List.mem_map.mp he
    exact ⟨ht.1, ht.2 ▸ hkey⟩
  · simp only [List.mem_cons, List.not_mem_nil, or_false] at he
    rcases he with rfl | rfl | rfl
    · exact ht.elim
    · exact ⟨.inl ht.1, ht.2⟩
    · exact ⟨.inr ht.1, ht.2⟩
  · obtain rfl := List.mem_singleton.mp he
    exact ⟨ht.1, .inl ht.2⟩

/-- What an operation may change it reads or settles. -/
lemma reads_or_settles {op : Operation} {db d k : String} (h : op.footprint db d k) :
    op.reads db d k ∨ op.settles db d k := by
  cases op
  case set key data => exact .inr h
  case getSet key data => exact .inr h
  case remove keys => exact .inr h
  case rename source target => exact h.2.imp (⟨h.1, ·⟩) (⟨h.1, ·⟩)
  case flush => exact .inr h
  case flushAll => exact .inr h
  case combineInto algebra target keys => exact .inr h
  all_goals exact .inl h

/-- What an operation neither reads nor settles stays as it is. -/
lemma made_frame {op : Operation} {s : Store} {pick : Nat} {db d k : String}
    {edits : List Edit} (h : op.outcome s pick db = .made op edits) (hreads : ¬ op.reads db d k)
    (hsettles : ¬ op.settles db d k) :
    (∀ old, Store.valueAfter edits d k old = old) ∧
      ∀ now old, Store.deadlineAfterEdits now edits d k old = old := by
  refine Store.after_of_not_touches fun e he ht => ?_
  rcases reads_or_settles (outcome_touches h he ht) with hread | hsettled
  · exact hreads hread
  · exact hsettles hsettled

/-! ## Stores that agree on what is read -/

section Agree

variable {s t : Store} {db key : String} (h : t.value? db key = s.value? db key)

include h

lemma has_congr : t.has db key = s.has db key := by
  rw [Store.has, h, Store.has]

lemma counter_congr : t.counter db key = s.counter db key := by
  rw [Store.counter, Store.get?, h, Store.counter, Store.get?]

lemma list?_congr : t.list? db key = s.list? db key := by
  rw [Store.list?, h, Store.list?]

lemma set?_congr : t.set? db key = s.set? db key := by
  rw [Store.set?, h, Store.set?]

lemma operand?_congr : t.operand? db key = s.operand? db key := by
  rw [Store.operand?, h, Store.operand?]

end Agree

lemma combine_congr {s t : Store} {db : String} {keys : List String}
    (h : ∀ key ∈ keys, t.value? db key = s.value? db key) (algebra : Store.SetAlgebra) :
    t.combine algebra db keys = s.combine algebra db keys := by
  have hoperands : t.operands db keys = s.operands db keys := by
    unfold Store.operands
    induction keys with
    | nil => rfl
    | cons key rest ih =>
      have hrest := ih fun k hk => h k (List.mem_cons_of_mem _ hk)
      rw [List.filterMap_cons, List.filterMap_cons, operand?_congr (h key List.mem_cons_self),
        hrest]
  have hall : (keys.all fun key => (t.operand? db key).isSome) =
      keys.all fun key => (s.operand? db key).isSome := by
    rw [Bool.eq_iff_iff, List.all_eq_true, List.all_eq_true]
    exact forall₂_congr fun key hkey => by rw [operand?_congr (h key hkey)]
  cases algebra <;> simp only [Store.combine, hoperands, hall]

/-- **An operation ends in the same way** on stores that agree on what it reads. -/
lemma outcome_congr {op : Operation} {s t : Store} {db : String}
    (hvalue : ∀ d k, op.reads db d k → t.value? d k = s.value? d k)
    (htimed : ∀ d k, op.reads db d k → (t.deadline? d k).isSome = (s.deadline? d k).isSome)
    (pick : Nat) : op.outcome t pick db = op.outcome s pick db := by
  cases op with
  | set key data => rfl
  | getSet key data => rfl
  | setNew key data => simp only [outcome, has_congr (hvalue db key ⟨rfl, rfl⟩)]
  | add key amount => simp only [outcome, counter_congr (hvalue db key ⟨rfl, rfl⟩)]
  | remove keys => rfl
  | rename source target => simp only [outcome, hvalue db source ⟨rfl, rfl⟩]
  | renameNew source target =>
    simp only [outcome, hvalue db source ⟨rfl, .inl rfl⟩,
      has_congr (hvalue db target ⟨rfl, .inr rfl⟩)]
  | move key target =>
    simp only [outcome, hvalue db key ⟨.inl rfl, rfl⟩,
      has_congr (hvalue target key ⟨.inr rfl, rfl⟩)]
  | expire key seconds =>
    simp only [outcome, has_congr (hvalue db key ⟨rfl, rfl⟩), htimed db key ⟨rfl, rfl⟩]
  | flush => rfl
  | flushAll => rfl
  | select => rfl
  | push key item side => simp only [outcome, list?_congr (hvalue db key ⟨rfl, rfl⟩)]
  | trim key start stop => simp only [outcome, list?_congr (hvalue db key ⟨rfl, rfl⟩)]
  | setItem key index item => simp only [outcome, list?_congr (hvalue db key ⟨rfl, rfl⟩)]
  | removeItems key count item => simp only [outcome, list?_congr (hvalue db key ⟨rfl, rfl⟩)]
  | pop key side => simp only [outcome, list?_congr (hvalue db key ⟨rfl, rfl⟩)]
  | addMember key member => simp only [outcome, set?_congr (hvalue db key ⟨rfl, rfl⟩)]
  | removeMember key member => simp only [outcome, set?_congr (hvalue db key ⟨rfl, rfl⟩)]
  | popMember key => simp only [outcome, set?_congr (hvalue db key ⟨rfl, rfl⟩)]
  | moveMember source target member =>
    simp only [outcome, joined, set?_congr (hvalue db source ⟨rfl, .inl rfl⟩),
      set?_congr (hvalue db target ⟨rfl, .inr rfl⟩)]
  | combineInto algebra target keys =>
    simp only [outcome, combine_congr (fun key hkey => hvalue db key ⟨rfl, hkey⟩)]

/-! ## Settled keys -/

lemma after_overwriting (db key : String) (value : Value) :
    (∀ old, Store.valueAfter (overwriting db key value) db key old = some value) ∧
      ∀ now old, Store.deadlineAfterEdits now (overwriting db key value) db key old = none := by
  simp [overwriting, Store.valueAfter, Store.deadlineAfterEdits, Edit.valueAt, Edit.deadlineAt]

/-- What keys that are taken out hold in the end, whatever else is taken out. -/
lemma after_discards {edits : List Edit} {d k : String}
    (hall : ∀ e ∈ edits, ∃ d' k', e = .discard d' k') (h : .discard d k ∈ edits) :
    (∀ old, Store.valueAfter edits d k old = none) ∧
      ∀ now old, Store.deadlineAfterEdits now edits d k old = none := by
  induction edits with
  | nil => cases h
  | cons first rest ih =>
    have hothers : ∀ e ∈ rest, ∃ d' k', e = .discard d' k' :=
      fun e he => hall e (List.mem_cons_of_mem _ he)
    by_cases hrest : .discard d k ∈ rest
    · obtain ⟨hvalue, hdeadline⟩ := ih hothers hrest
      exact ⟨fun _ => hvalue _, fun now _ => hdeadline now _⟩
    · obtain rfl : .discard d k = first := by
        rcases List.mem_cons.mp h with hfirst | hlater
        · exact hfirst
        · exact absurd hlater hrest
      have hkept : ∀ e ∈ rest, ¬ e.touches d k := by
        intro e he ht
        obtain ⟨d', k', rfl⟩ := hothers e he
        obtain ⟨rfl, rfl⟩ := ht
        exact hrest he
      obtain ⟨hvalue, hdeadline⟩ := Store.after_of_not_touches hkept
      constructor
      · intro old
        show Store.valueAfter rest d k ((Edit.discard d k).valueAt d k old) = none
        rw [hvalue]
        simp [Edit.valueAt]
      · intro now old
        show Store.deadlineAfterEdits now rest d k ((Edit.discard d k).deadlineAt now d k old) =
          none
        rw [hdeadline]
        simp [Edit.deadlineAt]

/-- What an operation leaves under a key that it settles does not depend on what was there, and has
no deadline. -/
lemma made_settles {op : Operation} {s : Store} {pick : Nat} {db d k : String}
    {edits : List Edit} (h : op.outcome s pick db = .made op edits) (hsettles : op.settles db d k) :
    (∃ value, ∀ old, Store.valueAfter edits d k old = value) ∧
      ∀ now old, Store.deadlineAfterEdits now edits d k old = none := by
  cases op
  case set key data =>
    obtain ⟨rfl, rfl⟩ := hsettles
    cases h
    obtain ⟨hvalue, hdeadline⟩ := after_overwriting d k (.string data)
    exact ⟨⟨_, hvalue⟩, hdeadline⟩
  case remove keys =>
    obtain ⟨rfl, hk⟩ := hsettles
    cases h
    have hall : ∀ e ∈ keys.map (Edit.discard d), ∃ d' k', e = .discard d' k' := by
      intro e he
      obtain ⟨key, -, rfl⟩ := List.mem_map.mp he
      exact ⟨d, key, rfl⟩
    obtain ⟨hvalue, hdeadline⟩ := after_discards hall (List.mem_map_of_mem hk)
    exact ⟨⟨none, hvalue⟩, hdeadline⟩
  case rename source target =>
    obtain ⟨rfl, rfl⟩ := hsettles
    simp only [outcome] at h
    split at h
    · cases h
    · split at h <;> cases h
      rename_i value _
      obtain ⟨hvalue, hdeadline⟩ := after_overwriting d k value
      exact ⟨⟨_, fun _ => hvalue _⟩, fun now _ => hdeadline now _⟩
  case combineInto algebra target keys =>
    obtain ⟨rfl, rfl⟩ := hsettles
    cases h
    obtain ⟨hvalue, hdeadline⟩ := after_overwriting d k (.set (s.combine algebra d keys))
    exact ⟨⟨_, hvalue⟩, hdeadline⟩
  case flush =>
    cases h
    obtain rfl := hsettles
    exact ⟨⟨none, fun _ => if_pos rfl⟩, fun _ _ => if_pos rfl⟩
  case flushAll =>
    cases h
    exact ⟨⟨none, fun _ => rfl⟩, fun _ _ => rfl⟩
  case getSet key data => cases h
  all_goals exact hsettles.elim

/-! ## Keys that an operation does without -/

/-- Does the operation need the key?  Without it, it ends in another way or changes other keys
otherwise.  What else it reads only decides what becomes of that key itself. -/
def needs (db d k : String) : Operation → Prop
  | .add key _ | .expire key _ | .trim key _ _ | .setItem key _ _ | .removeItems key _ _
  | .move key _ | .rename key _ | .moveMember key _ _ => d = db ∧ k = key
  | .renameNew source target => d = db ∧ (k = source ∨ k = target)
  | .combineInto _ _ keys => d = db ∧ k ∈ keys
  | _ => False

/-- Writing a string if there is none is only let through where there is no list and no set. -/
def Suited (s : Store) (db : String) : Operation → Prop
  | .setNew key _ => s.typeOf db key = .none ∨ s.typeOf db key = .string
  | _ => True

/-- The edits put at most one value under the key, of the given type. -/
def Rewrites (d k : String) (type : ValueType) (edits : List Edit) : Prop :=
  edits = [] ∨ ∃ value : Value, value.type = type ∧ edits = [.put d k value]

/-- The same, where the deadline of the key may go. -/
def Overwrites (d k : String) (type : ValueType) (edits : List Edit) : Prop :=
  Rewrites d k type edits ∨
    ∃ value : Value, value.type = type ∧ edits = overwriting d k value

/-- What the edits of an operation are on two stores that differ on a key that it does not need:
the same edits of other keys, and some of that key. -/
def Tolerates (d k : String) (type : ValueType) (edits : List Edit) : Outcome → Prop
  | .refused _ _ => False
  | .made _ edits' => ∃ common own own', edits = common ++ own ∧ edits' = common ++ own' ∧
      (∀ e ∈ common, ¬ e.touches d k) ∧ Rewrites d k type own ∧ Overwrites d k type own'

section Tolerates

variable {d k : String} {type : ValueType}

lemma Rewrites.overwrites {edits : List Edit} (h : Rewrites d k type edits) :
    Overwrites d k type edits :=
  .inl h

lemma rewrites_nil : Rewrites d k type [] :=
  .inl rfl

lemma rewrites_put (value : Value) : Rewrites d k value.type [.put d k value] :=
  .inr ⟨value, rfl, rfl⟩

lemma rewrites_erasing (found : Option Members) (member : Bytes) :
    Rewrites d k .set (erasing d k found member) := by
  cases found with
  | none => exact rewrites_nil
  | some members => exact rewrites_put (.set (members.erase member))

/-- An operation that edits nothing but the key tolerates any state of it. -/
lemma tolerates_own {recorded : Operation} {edits edits' : List Edit}
    (h : Rewrites d k type edits) (h' : Overwrites d k type edits') :
    Tolerates d k type edits (.made recorded edits') :=
  ⟨[], edits, edits', rfl, rfl, by simp, h, h'⟩

end Tolerates

/-- At most one key that an operation reads is one that it does not need. -/
lemma reads_unique {op : Operation} {db d k d' k' : String} (hread : op.reads db d k)
    (hneeds : ¬ op.needs db d k) (hread' : op.reads db d' k') (hneeds' : ¬ op.needs db d' k') :
    d' = d ∧ k' = k := by
  cases op
  case move key target =>
    obtain ⟨hd, rfl⟩ := hread
    obtain ⟨hd', rfl⟩ := hread'
    have htarget := hd.resolve_left fun hdb => hneeds ⟨hdb, rfl⟩
    have htarget' := hd'.resolve_left fun hdb => hneeds' ⟨hdb, rfl⟩
    exact ⟨htarget'.trans htarget.symm, rfl⟩
  case moveMember source target member =>
    obtain ⟨rfl, hk⟩ := hread
    obtain ⟨rfl, hk'⟩ := hread'
    have htarget := hk.resolve_left fun hsource => hneeds ⟨rfl, hsource⟩
    have htarget' := hk'.resolve_left fun hsource => hneeds' ⟨rfl, hsource⟩
    exact ⟨rfl, htarget'.trans htarget.symm⟩
  case setNew key data => exact ⟨hread'.1.trans hread.1.symm, hread'.2.trans hread.2.symm⟩
  case push key item side => exact ⟨hread'.1.trans hread.1.symm, hread'.2.trans hread.2.symm⟩
  case pop key side => exact ⟨hread'.1.trans hread.1.symm, hread'.2.trans hread.2.symm⟩
  case addMember key member => exact ⟨hread'.1.trans hread.1.symm, hread'.2.trans hread.2.symm⟩
  case removeMember key member => exact ⟨hread'.1.trans hread.1.symm, hread'.2.trans hread.2.symm⟩
  case popMember key => exact ⟨hread'.1.trans hread.1.symm, hread'.2.trans hread.2.symm⟩
  all_goals exact absurd hread hneeds

/-- Such an operation settles no key. -/
lemma not_settles_of_reads {op : Operation} {db d k : String} (hread : op.reads db d k)
    (hneeds : ¬ op.needs db d k) (d' k' : String) : ¬ op.settles db d' k' := by
  cases op <;> first | exact id | exact absurd hread hneeds

section Own

variable {d k : String} {type : ValueType} {own : List Edit}

lemma Overwrites.touches (h : Overwrites d k type own) {e : Edit} (he : e ∈ own)
    {d' k' : String} (ht : e.touches d' k') : d' = d ∧ k' = k := by
  rcases h with (rfl | ⟨value, -, rfl⟩) | ⟨value, -, rfl⟩
  · cases he
  · obtain rfl := List.mem_singleton.mp he
    exact ht
  · exact touches_overwriting he ht

/-- Other keys stay as they are. -/
lemma Overwrites.frame (h : Overwrites d k type own) {d' k' : String}
    (hother : ¬ (d' = d ∧ k' = k)) :
    (∀ old, Store.valueAfter own d' k' old = old) ∧
      ∀ now old, Store.deadlineAfterEdits now own d' k' old = old :=
  Store.after_of_not_touches fun _ he ht => hother (h.touches he ht)

/-- The key keeps what it held, or gets a value of the type. -/
lemma Overwrites.value (h : Overwrites d k type own) (old : Option Value) :
    Store.valueAfter own d k old = old ∨
      ∃ value : Value, value.type = type ∧ Store.valueAfter own d k old = some value := by
  rcases h with (rfl | ⟨value, htype, rfl⟩) | ⟨value, htype, rfl⟩
  · exact .inl rfl
  · exact .inr ⟨value, htype, if_pos ⟨rfl, rfl⟩⟩
  · exact .inr ⟨value, htype, if_pos ⟨rfl, rfl⟩⟩

/-- A key that is rewritten keeps its deadline. -/
lemma Rewrites.deadline (h : Rewrites d k type own) (now : Nat) (old : Option Nat) :
    Store.deadlineAfterEdits now own d k old = old := by
  rcases h with rfl | ⟨value, -, rfl⟩ <;> rfl

end Own

/-- What a list operation finds in a store where the key is missing or holds what `s` has there. -/
lemma list?_of_type {t : Store} {db key : String}
    (h : t.typeOf db key = .none ∨ t.typeOf db key = .list) :
    ∃ found, t.list? db key = .ok found := by
  unfold Store.typeOf at h
  unfold Store.list?
  cases hvalue : t.value? db key with
  | none => exact ⟨none, rfl⟩
  | some value =>
    rw [hvalue] at h
    cases value with
    | list items => exact ⟨some items, rfl⟩
    | string data => rcases h with h | h <;> cases h
    | set members => rcases h with h | h <;> cases h

lemma set?_of_type {t : Store} {db key : String}
    (h : t.typeOf db key = .none ∨ t.typeOf db key = .set) :
    ∃ found, t.set? db key = .ok found := by
  unfold Store.typeOf at h
  unfold Store.set?
  cases hvalue : t.value? db key with
  | none => exact ⟨none, rfl⟩
  | some value =>
    rw [hvalue] at h
    cases value with
    | set members => exact ⟨some members, rfl⟩
    | string data => rcases h with h | h <;> cases h
    | list items => rcases h with h | h <;> cases h

/-- A key that exists and that a list operation does not refuse holds a list. -/
lemma type_of_list? {s : Store} {db key : String} {found : Option (List Bytes)}
    (h : s.list? db key = .ok found) (hkey : s.has db key) : s.typeOf db key = .list := by
  obtain ⟨value, hvalue⟩ := (s.has_iff db key).mp hkey
  unfold Store.list? at h
  rw [hvalue] at h
  unfold Store.typeOf
  rw [hvalue]
  cases value with
  | list items => rfl
  | string data => cases h
  | set members => cases h

lemma type_of_set? {s : Store} {db key : String} {found : Option Members}
    (h : s.set? db key = .ok found) (hkey : s.has db key) : s.typeOf db key = .set := by
  obtain ⟨value, hvalue⟩ := (s.has_iff db key).mp hkey
  unfold Store.set? at h
  rw [hvalue] at h
  unfold Store.typeOf
  rw [hvalue]
  cases value with
  | set members => rfl
  | string data => cases h
  | list items => cases h

/-- An operation tolerates that a key it reads but does not need is missing, or holds something else
of the same type, as long as all else that it reads is the same. -/
lemma outcome_tolerates {op : Operation} {s t : Store} {pick : Nat} {db d k : String}
    {edits : List Edit} (h : op.outcome s pick db = .made op edits) (hsuited : op.Suited s db)
    (hread : op.reads db d k) (hneeds : ¬ op.needs db d k) (hkey : s.has d k)
    (htype : t.typeOf d k = .none ∨ t.typeOf d k = s.typeOf d k)
    (hvalue : ∀ d' k', op.needs db d' k' → t.value? d' k' = s.value? d' k') (pick' : Nat) :
    Tolerates d k (s.typeOf d k) edits (op.outcome t pick' db) := by
  cases op
  case setNew key data =>
    obtain ⟨rfl, rfl⟩ := hread
    have hstring : s.typeOf d k = .string := by
      rcases hsuited with hnone | hstring
      · obtain ⟨value, hheld⟩ := (s.has_iff d k).mp hkey
        rw [Store.typeOf, hheld] at hnone
        cases value <;> cases hnone
      · exact hstring
    rw [outcome, if_pos hkey] at h
    cases h
    rw [hstring, outcome]
    refine tolerates_own rewrites_nil ?_
    split
    · exact rewrites_nil.overwrites
    · exact .inr ⟨.string data, rfl, rfl⟩
  case push key item side =>
    obtain ⟨rfl, rfl⟩ := hread
    simp only [outcome, refusing] at h ⊢
    split at h
    · cases h
    · rename_i found hfound
      cases h
      rw [type_of_list? hfound hkey] at htype ⊢
      obtain ⟨found', hfound'⟩ := list?_of_type htype
      rw [hfound']
      exact tolerates_own (rewrites_put _) (rewrites_put _).overwrites
  case pop key side =>
    obtain ⟨rfl, rfl⟩ := hread
    simp only [outcome, refusing] at h ⊢
    split at h
    · cases h
    · rename_i found hfound
      cases h
      rw [type_of_list? hfound hkey] at htype ⊢
      obtain ⟨found', hfound'⟩ := list?_of_type htype
      rw [hfound']
      refine tolerates_own ?_ ?_
      · cases found
        · exact rewrites_nil
        · exact rewrites_put _
      · cases found'
        · exact rewrites_nil.overwrites
        · exact (rewrites_put _).overwrites
  case addMember key member =>
    obtain ⟨rfl, rfl⟩ := hread
    simp only [outcome, refusing] at h ⊢
    split at h
    · cases h
    · rename_i found hfound
      cases h
      rw [type_of_set? hfound hkey] at htype ⊢
      obtain ⟨found', hfound'⟩ := set?_of_type htype
      rw [hfound']
      exact tolerates_own (rewrites_put _) (rewrites_put _).overwrites
  case removeMember key member =>
    obtain ⟨rfl, rfl⟩ := hread
    simp only [outcome, refusing] at h ⊢
    split at h
    · cases h
    · rename_i found hfound
      cases h
      rw [type_of_set? hfound hkey] at htype ⊢
      obtain ⟨found', hfound'⟩ := set?_of_type htype
      rw [hfound']
      exact tolerates_own (rewrites_erasing _ _) (rewrites_erasing _ _).overwrites
  case popMember key =>
    obtain ⟨rfl, rfl⟩ := hread
    simp only [outcome, refusing] at h ⊢
    split at h
    · cases h
    · rename_i found hfound
      split at h
      · cases h
      · cases h
        rw [type_of_set? hfound hkey] at htype ⊢
        obtain ⟨found', hfound'⟩ := set?_of_type htype
        rw [hfound']
        dsimp only
        split
        · exact tolerates_own rewrites_nil (rewrites_erasing _ _).overwrites
        · exact tolerates_own rewrites_nil rewrites_nil.overwrites
  case move key target =>
    obtain ⟨hd, rfl⟩ := hread
    have htarget : d = target := hd.resolve_left fun hdb => hneeds ⟨hdb, rfl⟩
    -- The name that a key is moved to was free.
    simp only [outcome] at h
    split at h
    · cases h
    · split at h
      · cases h
      · rename_i hfree
        rw [htarget] at hkey
        exact absurd hkey hfree
  case moveMember source target member =>
    obtain ⟨rfl, hk⟩ := hread
    have hother : k ≠ source := fun hsource => hneeds ⟨rfl, hsource⟩
    obtain rfl : k = target := hk.resolve_left hother
    have hsource := set?_congr (hvalue d source ⟨rfl, rfl⟩)
    simp only [outcome, refusing] at h ⊢
    split at h
    · cases h
    · rename_i found hfound
      rw [type_of_set? hfound hkey] at htype ⊢
      obtain ⟨found', hfound'⟩ := set?_of_type htype
      rw [hfound', hsource]
      rcases hmembers : s.set? d source with fault | _ | members
      · rw [hmembers] at h
        cases h
      · rw [hmembers] at h
        cases h
        exact tolerates_own rewrites_nil rewrites_nil.overwrites
      · rw [hmembers] at h
        cases h
        -- The source is the same on both sides; the target is the key itself.
        refine ⟨[.put d source (.set (members.erase member))],
          if members.contains member then
            [.put d k (.set (joined s d source k members member))] else [],
          if members.contains member then
            [.put d k (.set (joined t d source k members member))] else [],
          rfl, rfl, ?_, ?_, ?_⟩
        · intro e he ht
          obtain rfl := List.mem_singleton.mp he
          exact hother ht.2
        · split
          · exact rewrites_put _
          · exact rewrites_nil
        · split
          · exact (rewrites_put _).overwrites
          · exact rewrites_nil.overwrites
  all_goals exact absurd hread hneeds

end Operation

end ReplicatedStore
