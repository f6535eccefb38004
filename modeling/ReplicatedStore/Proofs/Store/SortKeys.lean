import Mathlib.Tactic.Common
import ReplicatedStore.Proofs.Store.Sort

/-!
# The keys that patterns of SORT name

A pattern with a star names a key for every item: the item takes the place of every star, and what
it brings along, stars too, is left as it is (`Store.keyFor_first_star`).  So the key is what stands
before the first star, then the item, then what stands behind the star, only if there is no further
star in it; or if the item is a star itself, which makes no difference
(`Store.keyFor_eq_first_star_iff`).

Sorting looks at no other keys than that of the items and those that its patterns name for them
(`Store.sort_congr`).
-/

namespace ReplicatedStore.Store

/-! ## Filling in the item -/

/-- The characters with the text in place of every star. -/
def filled (text : List Char) (pattern : List Char) : List Char :=
  pattern.flatMap fun c => if c = '*' then text else [c]

section Filled

variable {text : List Char}

@[simp] lemma filled_nil (text : List Char) : filled text [] = [] := rfl

@[simp] lemma filled_star (text rest : List Char) :
    filled text ('*' :: rest) = text ++ filled text rest := rfl

lemma filled_cons {c : Char} (h : c ≠ '*') (rest : List Char) :
    filled text (c :: rest) = c :: filled text rest := by
  simp [filled, h]

lemma filled_append (text a b : List Char) :
    filled text (a ++ b) = filled text a ++ filled text b :=
  List.flatMap_append

lemma filled_of_not_mem {cs : List Char} (h : '*' ∉ cs) : filled text cs = cs := by
  induction cs with
  | nil => rfl
  | cons c rest ih =>
    have hc : c ≠ '*' := Ne.symm (List.ne_of_not_mem_cons h)
    rw [filled_cons hc, ih (List.not_mem_of_not_mem_cons h)]

/-- A star in the place of a star makes no difference. -/
lemma filled_with_star (cs : List Char) : filled ['*'] cs = cs := by
  induction cs with
  | nil => rfl
  | cons c rest ih =>
    by_cases hc : c = '*'
    · rw [hc, filled_star, ih, List.singleton_append]
    · rw [filled_cons hc, ih]

lemma length_filled (text cs : List Char) :
    (filled text cs).length + cs.count '*' = cs.length + cs.count '*' * text.length := by
  induction cs with
  | nil => simp
  | cons c rest ih =>
    by_cases hc : c = '*'
    · rw [hc, filled_star, List.length_append, List.count_cons_self, List.length_cons,
        Nat.succ_mul]
      omega
    · rw [filled_cons hc, List.length_cons, List.length_cons, List.count_cons_of_ne hc]
      omega

lemma count_filled (text cs : List Char) :
    (filled text cs).count '*' = cs.count '*' * text.count '*' := by
  induction cs with
  | nil => simp
  | cons c rest ih =>
    by_cases hc : c = '*'
    · rw [hc, filled_star, List.count_append, List.count_cons_self, Nat.succ_mul, ih]
      omega
    · rw [filled_cons hc, List.count_cons_of_ne hc, List.count_cons_of_ne hc, ih]

/-- Filling in a text changes what has a star, unless the text is a star. -/
lemma filled_eq_self_iff {cs : List Char} : filled text cs = cs ↔ '*' ∉ cs ∨ text = ['*'] := by
  constructor
  · intro hsame
    by_cases hstar : '*' ∈ cs
    · have hpos : 0 < cs.count '*' := List.count_pos_iff.mpr hstar
      have hlength := length_filled text cs
      have hcount := count_filled text cs
      rw [hsame] at hlength hcount
      have hone : text.length = 1 := Nat.eq_of_mul_eq_mul_left hpos (by omega)
      have hstars : text.count '*' = 1 := Nat.eq_of_mul_eq_mul_left hpos (by omega)
      obtain ⟨c, rfl⟩ := List.length_eq_one_iff.mp hone
      have hitself : '*' ∈ [c] := List.count_pos_iff.mp (by omega)
      exact .inr (congrArg (fun d => [d]) (List.mem_singleton.mp hitself).symm)
    · exact .inl hstar
  · rintro (hstar | rfl)
    · exact filled_of_not_mem hstar
    · exact filled_with_star cs

end Filled

lemma keyFor_ofText (pattern text : String) :
    keyFor pattern (Bytes.ofText text) = String.ofList (filled text.toList pattern.toList) := by
  rw [keyFor, Bytes.lossyText_ofText, filled]

/-- What is behind the first star is filled in as well. -/
lemma keyFor_first_star {before after : String} (hbefore : '*' ∉ before.toList) (text : String) :
    keyFor (before ++ "*" ++ after) (Bytes.ofText text) =
      before ++ text ++ keyFor after (Bytes.ofText text) := by
  have hstar : "*".toList = ['*'] := by decide
  rw [keyFor_ofText, keyFor_ofText, String.toList_append, String.toList_append, hstar,
    List.append_assoc, filled_append, filled_of_not_mem hbefore, List.singleton_append, filled_star,
    ← List.append_assoc, String.ofList_append, String.ofList_append, String.ofList_toList,
    String.ofList_toList]

/-- With a star before it, what is behind counts as it is in two cases only. -/
lemma keyFor_eq_first_star_iff {before after : String} (hbefore : '*' ∉ before.toList)
    (text : String) :
    keyFor (before ++ "*" ++ after) (Bytes.ofText text) = before ++ text ++ after ↔
      '*' ∉ after.toList ∨ text = "*" := by
  have hbehind : keyFor (before ++ "*" ++ after) (Bytes.ofText text) = before ++ text ++ after ↔
      keyFor after (Bytes.ofText text) = after := by
    rw [keyFor_first_star hbefore]
    exact String.append_right_inj _
  have hstar : text = "*" ↔ text.toList = ['*'] := by
    rw [← String.toList_inj]
    rfl
  rw [hbehind, keyFor_ofText, ← String.toList_inj, String.toList_ofList, filled_eq_self_iff, hstar]

/-! ## Looking at keys -/

section Agreeing

variable {s t : Store} {db key : String} {options : SortOptions} {items : List Bytes}

/-- Does the pattern name keys when sorting with the options? -/
def Names (options : SortOptions) (pattern : String) : Prop :=
  options.weightPattern.filter hasStar = some pattern ∨
    (options.answerPattern = some pattern ∧ pattern ≠ "#")

/-- Do both stores hold the same items under the key, and the same strings under the keys that
patterns name for them? -/
structure AgreeOn (s t : Store) (db key : String) (options : SortOptions) : Prop where
  items : t.value? db key = s.value? db key
  named : ∀ items, s.sortItems db key = .ok items → ∀ item ∈ items, ∀ pattern,
    Names options pattern → t.get? db (keyFor pattern item) = s.get? db (keyFor pattern item)

lemma AgreeOn.ascending (h : s.AgreeOn t db key options) (hitems : s.sortItems db key = .ok items) :
    t.ascending db options items = s.ascending db options items := by
  have hweights : ∀ item ∈ items, t.weightOf db options item = s.weightOf db options item := by
    intro item hitem
    unfold weightOf
    cases hpattern : options.weightPattern.filter hasStar with
    | none => rfl
    | some pattern =>
      dsimp only
      rw [h.named items hitems item hitem pattern (.inl hpattern)]
  have hweighted : items.mapM (fun item => do return (← t.weightOf db options item, item)) =
      items.mapM fun item => do return (← s.weightOf db options item, item) :=
    mapM_congr fun item hitem => by rw [hweights item hitem]
  unfold Store.ascending
  rw [hweighted]

lemma AgreeOn.answerFor (h : s.AgreeOn t db key options) (hitems : s.sortItems db key = .ok items)
    {item : Bytes} (hitem : item ∈ items) :
    t.answerFor db options item = s.answerFor db options item := by
  by_cases hitself : ∀ pattern, options.answerPattern = some pattern → pattern = "#"
  · rw [answerFor_itself hitself, answerFor_itself hitself]
  · obtain ⟨pattern, hpattern, hother⟩ : ∃ pattern, options.answerPattern = some pattern ∧
        pattern ≠ "#" := by simpa using hitself
    rw [answerFor_of_pattern hpattern hother, answerFor_of_pattern hpattern hother,
      h.named items hitems item hitem pattern (.inr ⟨hpattern, hother⟩)]

/-- **Sorting looks at no other keys.** -/
lemma sort_congr (h : s.AgreeOn t db key options) :
    t.sort db key options = s.sort db key options := by
  have hsame : t.sortItems db key = s.sortItems db key := by
    rw [sortItems, sortItems, h.items]
  cases hitems : s.sortItems db key with
  | error fault =>
    unfold sort
    rw [hsame, hitems]
    rfl
  | ok items =>
    have hascending := h.ascending hitems
    cases hsorted : s.ascending db options items with
    | error fault =>
      rw [sort_of_error hitems hsorted,
        sort_of_error (hsame.trans hitems) (hascending.trans hsorted)]
    | ok sorted =>
      rw [sort_of_ascending hitems hsorted,
        sort_of_ascending (hsame.trans hitems) (hascending.trans hsorted)]
      refine congrArg Except.ok (List.map_congr_left fun item hitem => ?_)
      have hordered := (ascending_of_ok hsorted).directed_perm
      exact h.answerFor hitems (hordered.mem_iff.mp (mem_of_mem_cut hitem))

end Agreeing

/-- **A pattern names one key for an item**, with the item in the place of every star.  Split at the
first star, the key is what stands before it, the item, and what stands behind it with the item
filled in; this is as it stands exactly if there is no further star, or the item is a star itself.
The weight of the item is the string under this key, and so is what is answered for it; sorting
looks at no key but those that are named so and that of the items. -/
theorem fills_every_star (before after text : String) (hbefore : '*' ∉ before.toList) :
    let pattern := before ++ "*" ++ after
    let named := keyFor pattern (Bytes.ofText text)
    named = before ++ text ++ keyFor after (Bytes.ofText text) ∧
    (named = before ++ text ++ after ↔ '*' ∉ after.toList ∨ text = "*") ∧
    (∀ (s : Store) db options, options.weightPattern = some pattern → ∀ weight,
      s.Weighs db options (Bytes.ofText text) weight ↔
        s.value? db named = some (.string weight)) ∧
    (∀ (s : Store) db options, options.answerPattern = some pattern →
      s.answerFor db options (Bytes.ofText text) = s.get? db named) ∧
    ∀ (s t : Store) db key options, s.AgreeOn t db key options →
      t.sort db key options = s.sort db key options := by
  intro pattern named
  have hpattern : '*' ∈ pattern.toList := by
    have hstar : '*' ∈ "*".toList := by decide
    rw [String.toList_append, String.toList_append]
    exact List.mem_append_left _ (List.mem_append_right _ hstar)
  refine ⟨keyFor_first_star hbefore text, keyFor_eq_first_star_iff hbefore text, ?_, ?_,
    fun s t db key options h => sort_congr h⟩
  · intro s db options hweight item
    have hfilter : options.weightPattern.filter hasStar = some pattern := by
      rw [hweight]
      simp [Option.filter, hasStar, hpattern]
    rw [Weighs, hfilter]
  · intro s db options hanswer
    have hother : pattern ≠ "#" := by
      intro hsame
      rw [hsame] at hpattern
      revert hpattern
      decide
    exact answerFor_of_pattern hanswer hother

/-- A pattern with two stars and an item that ends with one. -/
theorem fills_every_star_twice :
    let named := keyFor ("w_" ++ "*" ++ "_*") (Bytes.ofText "a*")
    '*' ∉ "w_".toList ∧ named = "w_a*_a*" ∧ named ≠ "w_a*_*" := by
  intro named
  have hbefore : '*' ∉ "w_".toList := by decide
  obtain ⟨hnamed, hfirst, -⟩ := fills_every_star "w_" "_*" "a*" hbefore
  refine ⟨hbefore, hnamed.trans (by decide +kernel), fun hsame => ?_⟩
  rcases hfirst.mp hsame with hstar | hstar
  · exact hstar (by decide)
  · revert hstar
    decide

/-- It is not so that only the first star gives way to the item: a second one is filled in as well,
and sorting does not find what is stored under the key with the star. -/
theorem not_fills_first_star_only :
    ¬ ∀ (s : Store) (db key before after text : String), '*' ∉ before.toList →
      s.value? db key = some (.list [Bytes.ofText text]) →
      s.sort db key { answerPattern := some (before ++ "*" ++ after) } =
        .ok [s.get? db (before ++ text ++ after)] := by
  intro hfirst
  let s := ((Store.new true).put "0" "w_1_*" (.string [0x78])).put "0" "l"
    (.list [Bytes.ofText "1"])
  have hclaimed := hfirst s "0" "l" "w_" "_*" "1" (by decide) (by decide +kernel)
  have hheld : s.get? "0" ("w_" ++ "1" ++ "_*") = some [0x78] := by decide +kernel
  have hanswer : s.sort "0" "l" { answerPattern := some ("w_" ++ "*" ++ "_*") } = .ok [none] := by
    let options : SortOptions := { answerPattern := some ("w_" ++ "*" ++ "_*") }
    let rank (item : Bytes) : Int := (Weight.rank? item).getD 0
    have hitems : s.sortItems "0" "l" = .ok [Bytes.ofText "1"] := by decide +kernel
    have hrank : ∀ item ∈ [Bytes.ofText "1"], Weight.rank? item = some (rank item) := by
      decide +kernel
    have hsorted : s.ascending "0" options [Bytes.ofText "1"] =
        .ok ([Bytes.ofText "1"].mergeSort fun a b => rank a ≤ rank b) :=
      ascending_of_ranks rfl (fun _ _ => rfl) hrank
    rw [sort_of_ascending hitems hsorted, List.mergeSort_singleton]
    decide +kernel
  rw [hheld, hanswer] at hclaimed
  simp at hclaimed

end ReplicatedStore.Store
