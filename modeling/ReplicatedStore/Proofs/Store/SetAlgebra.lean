import ReplicatedStore.Proofs.Store.Frame

/-!
# Set algebra

What an operation of set algebra finds is told here by its members, and of each member by the keys
that hold it (`InSet`), so that it does not matter in which order sets are taken or how often.  Keys
that hold no set are treated in three ways.  One of them empties an intersection, a union passes
over them, and a difference passes over them before it chooses the set that it takes from: what
counts there is the first key that holds a set, and which keys come after it.

Storing what an operation finds reads all keys before it writes, so the target may be one of them
(`set_algebra`).
-/

open Std (ExtTreeSet)

namespace ReplicatedStore.Store

variable {s : Store} {db key : String} {keys : List String} {m : Bytes}

/-- The key holds a set with the member. -/
def InSet (s : Store) (db key : String) (m : Bytes) : Prop :=
  ∃ members, s.value? db key = some (.set members) ∧ m ∈ members

/-! ## Folds over sets -/

section Folds

variable {first : Members} {rest sets : List Members}

lemma mem_intersectionOf_cons :
    m ∈ intersectionOf (first :: rest) ↔ m ∈ first ∧ ∀ members ∈ rest, m ∈ members := by
  simp only [intersectionOf]
  induction rest generalizing first with
  | nil => simp
  | cons members rest ih =>
    rw [List.foldl_cons, ih]
    simp [ExtTreeSet.mem_filter, and_assoc]

lemma mem_differenceOf_cons :
    m ∈ differenceOf (first :: rest) ↔ m ∈ first ∧ ∀ members ∈ rest, m ∉ members := by
  simp only [differenceOf]
  induction rest generalizing first with
  | nil => simp
  | cons members rest ih =>
    rw [List.foldl_cons, ih]
    simp [ExtTreeSet.mem_filter, and_assoc, ← Bool.not_eq_true]

lemma mem_unionOf : m ∈ unionOf sets ↔ ∃ members ∈ sets, m ∈ members := by
  have hfold : ∀ start : Members,
      m ∈ sets.foldl (fun acc members => acc.insertMany members.toList) start ↔
        m ∈ start ∨ ∃ members ∈ sets, m ∈ members := by
    induction sets with
    | nil => simp
    | cons members rest ih =>
      intro start
      rw [List.foldl_cons, ih]
      simp [or_assoc]
  simpa [unionOf] using hfold ∅

end Folds

/-! ## Operands -/

section Operands

variable {members : Members}

lemma operand?_eq_some :
    s.operand? db key = some members ↔ s.value? db key = some (.set members) := by
  unfold operand?
  split
  · simp_all
  · rename_i hother
    simp only [reduceCtorEq, false_iff]
    exact hother members

lemma typeOf_eq_set : s.typeOf db key = .set ↔ ∃ members, s.operand? db key = some members := by
  simp only [operand?_eq_some, typeOf]
  rcases s.value? db key with _ | data | items | members <;> simp [Value.type]

lemma operand?_eq_none : s.operand? db key = none ↔ s.typeOf db key ≠ .set := by
  rw [Ne, typeOf_eq_set, ← Option.isSome_iff_exists, Option.not_isSome_iff_eq_none]

lemma inSet_iff (h : s.operand? db key = some members) : s.InSet db key m ↔ m ∈ members := by
  rw [operand?_eq_some] at h
  simp [InSet, h]

lemma InSet.typeOf (h : s.InSet db key m) : s.typeOf db key = .set := by
  obtain ⟨members, hvalue, -⟩ := h
  exact typeOf_eq_set.mpr ⟨members, operand?_eq_some.mpr hvalue⟩

lemma mem_operands :
    members ∈ s.operands db keys ↔ ∃ key ∈ keys, s.operand? db key = some members := by
  simp [operands]

/-- A member of some operand is in the set of some key. -/
lemma exists_operand_iff :
    (∃ members ∈ s.operands db keys, m ∈ members) ↔ ∃ key ∈ keys, s.InSet db key m := by
  simp only [mem_operands]
  constructor
  · rintro ⟨members, ⟨key, hkey, hoperand⟩, hm⟩
    exact ⟨key, hkey, (inSet_iff hoperand).mpr hm⟩
  · rintro ⟨key, hkey, hin⟩
    obtain ⟨members, hoperand⟩ := typeOf_eq_set.mp hin.typeOf
    exact ⟨members, ⟨key, hkey, hoperand⟩, (inSet_iff hoperand).mp hin⟩

lemma operands_of_none (h : ∀ key ∈ keys, s.typeOf db key ≠ .set) : s.operands db keys = [] := by
  simpa [operands, operand?_eq_none] using h

/-- The operands from the first key that holds a set. -/
lemma operands_of_first {before after : List String} {first : String}
    (hbefore : ∀ key ∈ before, s.typeOf db key ≠ .set)
    (hfirst : s.operand? db first = some members) :
    s.operands db (before ++ first :: after) = members :: s.operands db after := by
  have hnone := operands_of_none hbefore
  rw [operands] at hnone ⊢
  rw [List.filterMap_append, hnone, List.nil_append, List.filterMap_cons_some hfirst, operands]

end Operands

/-! ## What the operations find -/

lemma mem_combine_union :
    m ∈ s.combine .union db keys ↔ ∃ key ∈ keys, s.InSet db key m := by
  rw [combine, mem_unionOf, exists_operand_iff]

lemma mem_combine_intersection :
    m ∈ s.combine .intersection db keys ↔ keys ≠ [] ∧ ∀ key ∈ keys, s.InSet db key m := by
  have hall : (keys.all fun key => (s.operand? db key).isSome) = true ↔
      ∀ key ∈ keys, s.typeOf db key = .set := by
    simp [typeOf_eq_set, Option.isSome_iff_exists]
  simp only [combine, hall]
  by_cases hsets : ∀ key ∈ keys, s.typeOf db key = .set
  · rw [if_pos hsets]
    cases keys with
    | nil => simp [operands, intersectionOf]
    | cons first rest =>
      obtain ⟨members, hfirst⟩ := typeOf_eq_set.mp (hsets first List.mem_cons_self)
      have hrest : (∀ others ∈ s.operands db rest, m ∈ others) ↔
          ∀ key ∈ rest, s.InSet db key m := by
        simp only [mem_operands]
        constructor
        · intro hin key hkey
          obtain ⟨others, hothers⟩ := typeOf_eq_set.mp (hsets key (List.mem_cons_of_mem _ hkey))
          exact (inSet_iff hothers).mpr (hin others ⟨key, hkey, hothers⟩)
        · rintro hin others ⟨key, hkey, hothers⟩
          exact (inSet_iff hothers).mp (hin key hkey)
      have hoperands : s.operands db ([] ++ first :: rest) = members :: s.operands db rest :=
        operands_of_first (by simp) hfirst
      rw [List.nil_append] at hoperands
      rw [hoperands, mem_intersectionOf_cons, hrest, ← inSet_iff hfirst]
      simp
  · rw [if_neg hsets]
    simp only [ExtTreeSet.not_mem_empty, false_iff, not_and]
    exact fun _ hin => hsets fun key hkey => (hin key hkey).typeOf

/-- A difference is taken from the first key that holds a set. -/
lemma mem_combine_difference_of_first {before after : List String} {first : String}
    (hbefore : ∀ key ∈ before, s.typeOf db key ≠ .set) (hfirst : s.typeOf db first = .set) :
    m ∈ s.combine .difference db (before ++ first :: after) ↔
      s.InSet db first m ∧ ∀ key ∈ after, ¬ s.InSet db key m := by
  obtain ⟨members, hmembers⟩ := typeOf_eq_set.mp hfirst
  have hsome : (∃ others ∈ s.operands db after, m ∈ others) ↔ ∃ key ∈ after, s.InSet db key m :=
    exists_operand_iff
  have hlater : (∀ others ∈ s.operands db after, m ∉ others) ↔
      ∀ key ∈ after, ¬ s.InSet db key m := by
    simpa using not_congr hsome
  rw [combine, operands_of_first hbefore hmembers, mem_differenceOf_cons, hlater,
    inSet_iff hmembers]

/-- Either no key holds a set or one of them is the first that does. -/
lemma none_or_first (s : Store) (db : String) (keys : List String) :
    (∀ key ∈ keys, s.typeOf db key ≠ .set) ∨
      ∃ before first after, keys = before ++ first :: after ∧
        (∀ key ∈ before, s.typeOf db key ≠ .set) ∧ s.typeOf db first = .set := by
  induction keys with
  | nil => simp
  | cons key rest ih =>
    by_cases hkey : s.typeOf db key = .set
    · exact .inr ⟨[], key, rest, by simp [hkey]⟩
    · rcases ih with hnone | ⟨before, first, after, rfl, hbefore, hfirst⟩
      · exact .inl (by simpa [hkey] using hnone)
      · exact .inr ⟨key :: before, first, after, by simp, by simpa [hkey] using hbefore, hfirst⟩

lemma mem_combine_difference :
    m ∈ s.combine .difference db keys ↔
      ∃ before first after, keys = before ++ first :: after ∧
        (∀ key ∈ before, s.typeOf db key ≠ .set) ∧ s.InSet db first m ∧
          ∀ key ∈ after, ¬ s.InSet db key m := by
  constructor
  · intro hm
    rcases none_or_first s db keys with hnone | ⟨before, first, after, rfl, hbefore, hfirst⟩
    · simp [combine, operands_of_none hnone, differenceOf] at hm
    · obtain ⟨hin, hout⟩ := (mem_combine_difference_of_first hbefore hfirst).mp hm
      exact ⟨before, first, after, rfl, hbefore, hin, hout⟩
  · rintro ⟨before, first, after, rfl, hbefore, hin, hout⟩
    exact (mem_combine_difference_of_first hbefore hin.typeOf).mpr ⟨hin, hout⟩

/-! ## Storing what is found -/

/-- The target holds what was found before, without a deadline, and nothing else is touched. -/
lemma perform_combineInto (s : Store) (now pick : Nat) (db : String) (op : SetAlgebra)
    (target : String) (keys : List String) :
    ∃ left, (Operation.combineInto op target keys).perform s now pick db = (.ok .done, left) ∧
      left.value? db target = some (.set (s.combine op db keys)) ∧
      left.deadline? db target = none ∧
      ∀ d k, ¬ (d = db ∧ k = target) →
        left.value? d k = s.value? d k ∧ left.deadline? d k = s.deadline? d k := by
  refine ⟨_, by rw [Operation.perform], ?_, ?_, ?_⟩
  · simp [combineInto, value?_put]
  · simp [combineInto, deadline?_clearDeadline]
  · intro d k hother
    simp [combineInto, value?_put, deadline?_clearDeadline, hother]

/-- **Set algebra.**  An intersection holds the members that every key holds in a set, if there is a
key; a union those that any key holds; and a difference those of the first key that holds a set and
of no key after it.  So neither order nor repetition of keys matters to the first two, nor to the
last one behind that first key.  Stored under any key, what is found is what was there to be found
before. -/
theorem set_algebra (s : Store) (db : String) (keys : List String) :
    (∀ m, m ∈ s.combine .intersection db keys ↔ keys ≠ [] ∧ ∀ key ∈ keys, s.InSet db key m) ∧
    (∀ m, m ∈ s.combine .union db keys ↔ ∃ key ∈ keys, s.InSet db key m) ∧
    (∀ m, m ∈ s.combine .difference db keys ↔
      ∃ before first after, keys = before ++ first :: after ∧
        (∀ key ∈ before, s.typeOf db key ≠ .set) ∧ s.InSet db first m ∧
          ∀ key ∈ after, ¬ s.InSet db key m) ∧
    (∀ others, (∀ key, key ∈ others ↔ key ∈ keys) →
      s.combine .intersection db others = s.combine .intersection db keys ∧
        s.combine .union db others = s.combine .union db keys) ∧
    (∀ before first after others, keys = before ++ first :: after →
      (∀ key ∈ before, s.typeOf db key ≠ .set) → s.typeOf db first = .set →
      (∀ key, key ∈ others ↔ key ∈ after) →
      s.combine .difference db (before ++ first :: others) = s.combine .difference db keys) ∧
    ∀ op target now pick, ∃ left,
      (Operation.combineInto op target keys).perform s now pick db = (.ok .done, left) ∧
      left.value? db target = some (.set (s.combine op db keys)) ∧
      left.deadline? db target = none ∧
      ∀ d k, ¬ (d = db ∧ k = target) →
        left.value? d k = s.value? d k ∧ left.deadline? d k = s.deadline? d k := by
  refine ⟨fun m => mem_combine_intersection, fun m => mem_combine_union,
    fun m => mem_combine_difference, ?same, ?later,
    fun op target now pick => s.perform_combineInto now pick db op target keys⟩
  case same =>
    intro others hothers
    have hempty : others = [] ↔ keys = [] := by
      simp only [List.eq_nil_iff_forall_not_mem, hothers]
    constructor
    · apply ExtTreeSet.ext_mem
      simp [mem_combine_intersection, hothers, hempty]
    · apply ExtTreeSet.ext_mem
      simp [mem_combine_union, hothers]
  case later =>
    rintro before first after others rfl hbefore hfirst hothers
    apply ExtTreeSet.ext_mem
    simp [mem_combine_difference_of_first hbefore hfirst, hothers]

/-- Two sets that share a member, the first of them with an end, and a string. -/
def twoSets : Store :=
  ([.addMember "a" [1], .addMember "a" [2], .addMember "b" [2], .set "text" [],
    .expire "a" 10].map fun op : Operation => Action.perform op 0 "0").foldl (Action.run 0)
      (new true)

/-- Keys that are missing, repeated and of another type, and a target that is an operand with an
end. -/
theorem set_algebra_aliased :
    twoSets.combine .intersection "0" ["b", "a", "b"] =
        twoSets.combine .intersection "0" ["a", "b"] ∧
      (∀ key ∈ ["none", "text"], twoSets.typeOf "0" key ≠ .set) ∧ twoSets.typeOf "0" "a" = .set ∧
      twoSets.combine .difference "0" ["none", "text", "a", "b", "none", "b"] =
        twoSets.combine .difference "0" ["none", "text", "a", "none", "b"] ∧
      twoSets.deadline? "0" "a" = some 10000 ∧
      ∃ left, (Operation.combineInto .difference "a" ["none", "text", "a", "none", "b"]).perform
          twoSets 3 0 "0" = (.ok .done, left) ∧
        left.value? "0" "a" = some (.set {[1]}) ∧
        left.deadline? "0" "a" = none := by
  obtain ⟨-, -, -, hsame, -, -⟩ := set_algebra twoSets "0" ["a", "b"]
  obtain ⟨-, -, -, -, hlater, hstored⟩ := set_algebra twoSets "0" ["none", "text", "a", "none", "b"]
  have hothers : ∀ key ∈ ["none", "text"], twoSets.typeOf "0" key ≠ .set := by decide +kernel
  have hfirst : twoSets.typeOf "0" "a" = .set := by decide +kernel
  have hfound : twoSets.combine .difference "0" ["none", "text", "a", "none", "b"] =
      {[1]} := by decide +kernel
  obtain ⟨left, hperform, hvalue, hdeadline, -⟩ := hstored .difference "a" 3 0
  rw [hfound] at hvalue
  refine ⟨(hsame ["b", "a", "b"] ?_).1, hothers, hfirst,
    hlater ["none", "text"] "a" ["none", "b"] ["b", "none", "b"] rfl hothers hfirst ?_,
    by decide +kernel, left, hperform, hvalue, hdeadline⟩
  · simp [or_comm]
  · simp [or_comm]

end ReplicatedStore.Store
