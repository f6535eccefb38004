import Mathlib.Data.List.Basic
import ReplicatedStore.Proofs.Encoding.Layout
import ReplicatedStore.Store.Sort

/-!
# Sorting

What sorting answers is told in two steps.  The items stand in ascending order of what they weigh,
and items of equal weight stand in the order they had (`StablySorted`); such an arrangement is
reversed as a whole for descending order, a part of it is cut out, and what is answered for each
item is put in its place (`Store.sort_exact`).

Sorting fails for an item that has no weight, or whose weight is no number where numbers are
compared (`Store.Unfit`).  All items are weighed before anything is cut out, so that an item fails
also where it would not have been answered.

An item is answered as it is, or by what is stored under the key that a pattern names for it; a
pattern without a star names the same key for all items (`Store.answerFor_of_not_hasStar`).  Nothing
else is said here of which key a pattern names for an item, or of which text is which number.
-/

namespace ReplicatedStore

/-! ## Stable arrangements -/

/-- `sorted` is an arrangement of the items in which their weights ascend, and the items of each
weight stand in the order they had. -/
structure StablySorted {α ω : Type} [DecidableEq ω] (le : ω → ω → Prop) (weight : α → ω)
    (items sorted : List α) : Prop where
  perm : sorted.Perm items
  ascending : sorted.Pairwise fun a b => le (weight a) (weight b)
  stable : ∀ w, sorted.filter (fun a => weight a = w) = items.filter fun a => weight a = w

section Stable

variable {α ω : Type}

/-- Merging is stable: the items of one weight are an ascending part of the list, which merging
keeps. -/
lemma stablySorted_mergeSort [DecidableEq ω] (le : ω → ω → Bool)
    (trans : ∀ a b c, le a b → le b c → le a c) (total : ∀ a b, le a b || le b a)
    (weight : α → ω) (items : List α) :
    StablySorted (fun a b => le a b) weight items
      (items.mergeSort fun a b => le (weight a) (weight b)) := by
  let before : α → α → Bool := fun a b => le (weight a) (weight b)
  have htrans : ∀ a b c, before a b → before b c → before a c := fun a b c => trans _ _ _
  have htotal : ∀ a b, before a b || before b a := fun a b => total _ _
  have hperm : (items.mergeSort before).Perm items := items.mergeSort_perm before
  refine ⟨hperm, List.pairwise_mergeSort htrans htotal items, fun w => ?_⟩
  have htied : (items.filter fun a => weight a = w).Pairwise fun a b => before a b := by
    refine List.pairwise_of_forall_mem_list fun a ha b hb => ?_
    have ha' : weight a = w := by simpa using List.of_mem_filter ha
    have hb' : weight b = w := by simpa using List.of_mem_filter hb
    have hrefl : le w w := by simpa using total w w
    show le (weight a) (weight b)
    rwa [ha', hb']
  have hkept : (items.filter fun a => weight a = w).Sublist (items.mergeSort before) :=
    List.sublist_mergeSort htrans htotal htied List.filter_sublist
  have hpart : (items.filter fun a => weight a = w).Sublist
      ((items.mergeSort before).filter fun a => weight a = w) := by
    simpa using hkept.filter fun a => decide (weight a = w)
  have hlength := (hperm.filter fun a => decide (weight a = w)).length_eq
  exact (hpart.eq_of_length hlength.symm).symm

/-- Items that are sorted beside their weights are sorted by their weights. -/
lemma map_snd_mergeSort (le : ω → ω → Bool) (weight : α → ω) (items : List α) :
    ((items.map fun item => (weight item, item)).mergeSort fun a b => le a.1 b.1).map Prod.snd =
      items.mergeSort fun a b => le (weight a) (weight b) := by
  have hpaired := List.map_mergeSort (r := fun a b => le (weight a) (weight b))
    (s := fun a b : ω × α => le a.1 b.1) (f := fun item => (weight item, item)) (l := items)
    fun a _ b _ => rfl
  rw [← hpaired, List.map_map]
  exact List.map_id _

end Stable

/-! ## Lists of attempts -/

section Attempts

variable {α β ε : Type} {f : α → Except ε β} {items : List α}

lemma mapM_congr {g : α → Except ε β} (h : ∀ a ∈ items, f a = g a) :
    items.mapM f = items.mapM g := by
  induction items with
  | nil => rfl
  | cons a rest ih =>
    rw [List.mapM_cons, List.mapM_cons, h a List.mem_cons_self,
      ih fun b hb => h b (List.mem_cons_of_mem _ hb)]

lemma mapM_of_ok {g : α → β} (h : ∀ a ∈ items, f a = .ok (g a)) :
    items.mapM f = .ok (items.map g) :=
  (mapM_congr h).trans List.mapM_pure

lemma mapM_of_error (f : α → Except ε β) {a : α} (ha : a ∈ items) {fault : ε}
    (h : f a = .error fault) : ∃ first, items.mapM f = .error first := by
  induction items with
  | nil => cases ha
  | cons b rest ih =>
    rw [List.mapM_cons]
    cases hb : f b with
    | error first => exact ⟨first, rfl⟩
    | ok found =>
      rcases List.mem_cons.mp ha with rfl | hrest
      · rw [h] at hb
        cases hb
      · obtain ⟨first, hfirst⟩ := ih hrest
        exact ⟨first, by rw [hfirst]; rfl⟩

end Attempts

namespace Store

variable {s : Store} {db key : String} {options : SortOptions} {items : List Bytes} {item : Bytes}

/-! ## Items and weights -/

/-- The items that are sorted: those of a list, from its head, or the members of a set, in the order
of their octets. -/
inductive Sortable (s : Store) (db key : String) (items : List Bytes) : Prop where
  /-- The key holds a list. -/
  | list (held : s.value? db key = some (.list items))
  /-- The key holds a set. -/
  | set {members : Members} (held : s.value? db key = some (.set members))
    (same : ∀ m, m ∈ items ↔ m ∈ members)
    (ascending : items.Pairwise fun a b => compare a b = .lt)

/-- Does the item weigh so much?  Its weight is the string under the key that the pattern names for
it, if there is a pattern with a star, and else the item itself. -/
def Weighs (s : Store) (db : String) (options : SortOptions) (item weight : Bytes) : Prop :=
  match options.weightPattern.filter hasStar with
  | some pattern => s.value? db (keyFor pattern item) = some (.string weight)
  | none => weight = item

/-- Can the item not be sorted?  The key for its weight is no string, or its weight is no number and
numbers are compared. -/
def Unfit (s : Store) (db : String) (options : SortOptions) (item : Bytes) : Prop :=
  (∃ pattern, options.weightPattern = some pattern ∧ '*' ∈ pattern.toList ∧
    ∀ weight, s.value? db (keyFor pattern item) ≠ some (.string weight)) ∨
  (options.alpha = false ∧ ∃ weight, s.Weighs db options item weight ∧ Weight.rank? weight = none)

/-- Are the items in ascending order of their weights?  These compare as octets or as numbers. -/
inductive Ascending (s : Store) (db : String) (options : SortOptions) (items sorted : List Bytes) :
    Prop where
  /-- The weights compare as octets. -/
  | octets (weight : Bytes → Bytes) (alpha : options.alpha = true)
    (weighs : ∀ item ∈ items, s.Weighs db options item (weight item))
    (stably : StablySorted (fun a b => (compare a b).isLE) weight items sorted)
  /-- The weights compare as numbers. -/
  | numbers (rank : Bytes → Int) (numeric : options.alpha = false)
    (weighs : ∀ item ∈ items, ∃ weight, s.Weighs db options item weight ∧
      Weight.rank? weight = some (rank item))
    (stably : StablySorted (· ≤ ·) rank items sorted)

lemma Ascending.perm {sorted : List Bytes} (h : s.Ascending db options items sorted) :
    sorted.Perm items := by
  cases h with
  | octets weight alpha weighs stably => exact stably.perm
  | numbers rank numeric weighs stably => exact stably.perm

/-- Reversed or not, nothing is lost. -/
lemma Ascending.directed_perm {sorted : List Bytes} (h : s.Ascending db options items sorted) :
    (if options.descending then sorted.reverse else sorted).Perm items := by
  split
  · exact sorted.reverse_perm.trans h.perm
  · exact h.perm

lemma get?_eq_some {data : Bytes} : s.get? db key = some data ↔
    s.value? db key = some (.string data) := by
  unfold get?
  split <;> simp_all

lemma get?_eq_none : s.get? db key = none ↔ ∀ data, s.value? db key ≠ some (.string data) := by
  simp only [← get?_eq_some, ne_eq]
  exact Option.eq_none_iff_forall_not_mem

/-- The items that a key holds, in their order. -/
lemma sortable_sortItems (h : s.sortItems db key = .ok items) : s.Sortable db key items := by
  unfold sortItems at h
  split at h
  · rename_i held heq
    obtain rfl := Except.ok.inj h
    exact .list heq
  · rename_i members heq
    obtain rfl := Except.ok.inj h
    exact .set heq (fun m => Std.ExtTreeSet.mem_toList) Std.ExtTreeSet.ordered_toList
  · cases h
  · cases h

lemma sortItems_of_sortable (h : s.Sortable db key items) :
    ∃ found, s.sortItems db key = .ok found ∧ ∀ item, item ∈ found ↔ item ∈ items := by
  unfold sortItems
  cases h with
  | list held =>
    rw [held]
    exact ⟨items, rfl, fun _ => Iff.rfl⟩
  | set held same ascending =>
    rename_i members
    rw [held]
    exact ⟨members.toList, rfl, fun m => Std.ExtTreeSet.mem_toList.trans (same m).symm⟩

lemma sortItems_error :
    (∃ fault, s.sortItems db key = .error fault) ↔
      s.value? db key = none ∨ ∃ data, s.value? db key = some (.string data) := by
  unfold sortItems
  split <;> rename_i heq <;> simp [heq]

lemma weightOf_eq_ok {weight : Bytes} :
    s.weightOf db options item = .ok weight ↔ s.Weighs db options item weight := by
  unfold weightOf Weighs
  cases options.weightPattern.filter hasStar with
  | none => simp [eq_comm]
  | some pattern =>
    simp only [← get?_eq_some]
    cases s.get? db (keyFor pattern item) <;> simp

lemma weightOf_error :
    (∃ fault, s.weightOf db options item = .error fault) ↔
      ∃ pattern, options.weightPattern = some pattern ∧ '*' ∈ pattern.toList ∧
        ∀ weight, s.value? db (keyFor pattern item) ≠ some (.string weight) := by
  simp only [← get?_eq_none]
  have hpattern : ∀ pattern, options.weightPattern.filter hasStar = some pattern ↔
      options.weightPattern = some pattern ∧ '*' ∈ pattern.toList := by
    intro pattern
    simp [Option.filter_eq_some_iff, hasStar]
  unfold weightOf
  cases hfilter : options.weightPattern.filter hasStar with
  | none =>
    simp only [reduceCtorEq, exists_false, false_iff, not_exists]
    rintro pattern ⟨hsome, hstar, -⟩
    rw [(hpattern pattern).mpr ⟨hsome, hstar⟩] at hfilter
    cases hfilter
  | some pattern =>
    obtain ⟨hsome, hstar⟩ := (hpattern pattern).mp hfilter
    dsimp only
    cases hget : s.get? db (keyFor pattern item) <;> simp [hsome, hstar, hget]

/-! ## Items in order -/

lemma rankOf_eq_ok {weight : Bytes} {rank : Int} :
    rankOf weight = .ok rank ↔ Weight.rank? weight = some rank := by
  unfold rankOf
  cases Weight.rank? weight <;> simp

lemma rankOf_of_none {weight : Bytes} (h : Weight.rank? weight = none) :
    rankOf weight = .error (.sort (.notNumber weight)) := by
  unfold rankOf
  rw [h]

/-- Items that all weigh something are put in order by that, as octets or as numbers. -/
lemma ascending_of_weighs {weight : Bytes → Bytes}
    (h : ∀ item ∈ items, s.Weighs db options item (weight item)) :
    s.ascending db options items =
      if options.alpha = true then
        .ok (items.mergeSort fun a b => (compare (weight a) (weight b)).isLE)
      else do
        let ranked ← items.mapM fun item => do return (← rankOf (weight item), item)
        return (ranked.mergeSort fun a b => a.1 ≤ b.1).map Prod.snd := by
  have hweighted : items.mapM (fun item => do return (← s.weightOf db options item, item)) =
      .ok (items.map fun item => (weight item, item)) := by
    refine mapM_of_ok fun item hitem => ?_
    rw [weightOf_eq_ok.mpr (h item hitem)]
    rfl
  have hoctets := map_snd_mergeSort (fun a b : Bytes => (compare a b).isLE) weight items
  have hranked : (items.map fun item => (weight item, item)).mapM
      (fun pair => do return (← rankOf pair.1, pair.2)) =
      items.mapM fun item => do return (← rankOf (weight item), item) := List.mapM_map
  unfold ascending
  rw [hweighted, ← hoctets, ← hranked]
  rfl

/-- Items whose weights are all numbers are put in order by these. -/
lemma ascending_of_ranks {weight : Bytes → Bytes} {rank : Bytes → Int}
    (hnumeric : options.alpha = false)
    (hweight : ∀ item ∈ items, s.Weighs db options item (weight item))
    (hrank : ∀ item ∈ items, Weight.rank? (weight item) = some (rank item)) :
    s.ascending db options items = .ok (items.mergeSort fun a b => rank a ≤ rank b) := by
  have hranked : items.mapM (fun item => do return (← rankOf (weight item), item)) =
      .ok (items.map fun item => (rank item, item)) := by
    refine mapM_of_ok fun item hitem => ?_
    rw [rankOf_eq_ok.mpr (hrank item hitem)]
    rfl
  have hnumbers := map_snd_mergeSort (fun a b : Int => decide (a ≤ b)) rank items
  rw [ascending_of_weighs hweight, hnumeric, if_neg Bool.false_ne_true, hranked, ← hnumbers]
  rfl

/-- Items that all can be sorted are put in order. -/
lemma ascending_of_fit (h : ∀ item ∈ items, ¬ s.Unfit db options item) :
    ∃ sorted, s.ascending db options items = .ok sorted ∧
      s.Ascending db options items sorted := by
  have hweighs : ∀ item ∈ items, ∃ weight, s.Weighs db options item weight := by
    intro item hitem
    cases hweight : s.weightOf db options item with
    | ok weight => exact ⟨weight, weightOf_eq_ok.mp hweight⟩
    | error fault => exact absurd (.inl (weightOf_error.mp ⟨fault, hweight⟩)) (h item hitem)
  choose! weight hweight using hweighs
  cases halpha : options.alpha with
  | true =>
    rw [ascending_of_weighs hweight, halpha]
    have htotal : ∀ a b : Bytes, (compare a b).isLE || (compare b a).isLE := by
      intro a b
      have hswap : compare b a = (compare a b).swap := Std.OrientedCmp.eq_swap
      rw [hswap]
      cases compare a b <;> rfl
    exact ⟨_, if_pos rfl, .octets weight halpha hweight
      (stablySorted_mergeSort _ (fun a b c => Std.TransCmp.isLE_trans) htotal weight items)⟩
  | false =>
    have hranks : ∀ item ∈ items, ∃ rank, Weight.rank? (weight item) = some rank := by
      intro item hitem
      cases hrank : Weight.rank? (weight item) with
      | some rank => exact ⟨rank, rfl⟩
      | none => exact absurd (.inr ⟨halpha, _, hweight item hitem, hrank⟩) (h item hitem)
    choose! rank hrank using hranks
    have hstably := stablySorted_mergeSort (fun a b : Int => decide (a ≤ b))
      (fun a b c => by simpa using Int.le_trans) (fun a b => by simpa using Int.le_total a b)
      rank items
    exact ⟨_, ascending_of_ranks halpha hweight hrank, .numbers rank halpha
      (fun item hitem => ⟨_, hweight item hitem, hrank item hitem⟩) (by simpa using hstably)⟩

/-- One item that cannot be sorted is enough to fail. -/
lemma ascending_of_unfit (hitem : item ∈ items) (h : s.Unfit db options item) :
    ∃ fault, s.ascending db options items = .error fault := by
  -- An item without a weight makes weighing fail.
  have hweightless : ∀ {other fault}, other ∈ items →
      s.weightOf db options other = .error fault →
      ∃ first, s.ascending db options items = .error first := by
    intro other fault hother hfault
    obtain ⟨first, hfirst⟩ :=
      mapM_of_error (fun item => do return (← s.weightOf db options item, item)) hother
        (by rw [hfault]; rfl)
    exact ⟨first, by unfold ascending; rw [hfirst]; rfl⟩
  rcases h with hmissing | ⟨hnumeric, heavy, hheavy, hrank⟩
  · obtain ⟨fault, hfault⟩ := weightOf_error.mpr hmissing
    exact hweightless hitem hfault
  · by_cases hall : ∀ item ∈ items, ∃ weight, s.Weighs db options item weight
    · -- All items weigh something, so that this one fails as a number.
      choose! weight hweight using hall
      have hsame : weight item = heavy := by
        have htwice := (weightOf_eq_ok.mpr (hweight item hitem)).symm.trans
          (weightOf_eq_ok.mpr hheavy)
        exact Except.ok.inj htwice
      obtain ⟨first, hfirst⟩ :=
        mapM_of_error (fun item => do return (← rankOf (weight item), item)) hitem
          (by rw [hsame, rankOf_of_none hrank]; rfl)
      refine ⟨first, ?_⟩
      rw [ascending_of_weighs hweight, hnumeric, if_neg Bool.false_ne_true, hfirst]
      rfl
    · simp only [not_forall, not_exists] at hall
      obtain ⟨other, hother, hnone⟩ := hall
      cases hweight : s.weightOf db options other with
      | ok weight => exact absurd (weightOf_eq_ok.mp hweight) (hnone weight)
      | error fault => exact hweightless hother hweight

/-- What is put in order could be sorted. -/
lemma ascending_of_ok {sorted : List Bytes} (h : s.ascending db options items = .ok sorted) :
    s.Ascending db options items sorted := by
  have hfit : ∀ item ∈ items, ¬ s.Unfit db options item := by
    intro item hitem hunfit
    obtain ⟨fault, hfault⟩ := ascending_of_unfit hitem hunfit
    rw [hfault] at h
    cases h
  obtain ⟨arranged, harranged, hascending⟩ := ascending_of_fit hfit
  obtain rfl := Except.ok.inj (h.symm.trans harranged)
  exact hascending

/-! ## What is answered -/

/-- A pattern without a star names itself for every item. -/
lemma keyFor_of_not_hasStar {pattern : String} (h : hasStar pattern = false) (item : Bytes) :
    keyFor pattern item = pattern := by
  have hother : ∀ c ∈ pattern.toList, c ≠ '*' := by
    rintro c hc rfl
    rw [hasStar, List.contains_iff_mem.mpr hc] at h
    cases h
  have hkept : (pattern.toList.flatMap fun c => if c = '*' then item.lossyText.toList else [c]) =
      pattern.toList.flatMap fun c => [c] :=
    List.flatMap_congr fun c hc => if_neg (hother c hc)
  rw [keyFor, hkept, List.flatMap_singleton', String.ofList_toList]

/-- Without a pattern, and for the pattern `#`, the item itself is answered. -/
lemma answerFor_itself (h : ∀ pattern, options.answerPattern = some pattern → pattern = "#") :
    s.answerFor db options item = some item := by
  unfold answerFor
  split
  · rfl
  · rename_i pattern hpattern
    exact if_pos (h pattern hpattern)

/-- Any other pattern answers the string under the key that it names for the item, and nothing if
there is none. -/
lemma answerFor_of_pattern {pattern : String} (hpattern : options.answerPattern = some pattern)
    (hother : pattern ≠ "#") :
    s.answerFor db options item = s.get? db (keyFor pattern item) := by
  rw [answerFor, hpattern]
  exact if_neg hother

/-- A pattern without a star answers the same for every item: unlike a pattern for the weights, it
is not left aside. -/
lemma answerFor_of_not_hasStar {pattern : String} (hpattern : options.answerPattern = some pattern)
    (hother : pattern ≠ "#") (hstar : hasStar pattern = false) :
    s.answerFor db options item = s.get? db pattern := by
  rw [answerFor_of_pattern hpattern hother, keyFor_of_not_hasStar hstar]

/-- The part of the sequence that the options ask for. -/
def cut (options : SortOptions) (ordered : List Bytes) : List Bytes :=
  match options.part with
  | some (start, count) => (ordered.drop start).take count
  | none => ordered

/-- How many of so many items the options ask for. -/
def cutLength (options : SortOptions) (length : Nat) : Nat :=
  match options.part with
  | some (start, count) => min count (length - start)
  | none => length

lemma mem_of_mem_cut {ordered : List Bytes} (h : item ∈ cut options ordered) : item ∈ ordered := by
  unfold cut at h
  cases hpart : options.part with
  | none => rwa [hpart] at h
  | some part =>
    rw [hpart] at h
    exact List.mem_of_mem_drop (List.mem_of_mem_take h)

lemma length_cut (options : SortOptions) (ordered : List Bytes) :
    (cut options ordered).length = cutLength options ordered.length := by
  unfold cut cutLength
  cases options.part with
  | none => rfl
  | some part => simp

/-- What is answered when the items are in order. -/
lemma sort_of_ascending {sorted : List Bytes} (hitems : s.sortItems db key = .ok items)
    (h : s.ascending db options items = .ok sorted) :
    s.sort db key options =
      .ok ((cut options (if options.descending then sorted.reverse else sorted)).map
        (s.answerFor db options)) := by
  unfold sort
  rw [hitems]
  show (do let sorted ← s.ascending db options items; _) = _
  rw [h]
  rfl

lemma sort_of_error {fault : StoreError} (hitems : s.sortItems db key = .ok items)
    (h : s.ascending db options items = .error fault) : s.sort db key options = .error fault := by
  unfold sort
  rw [hitems]
  show (do let sorted ← s.ascending db options items; _) = _
  rw [h]
  rfl

/-- The order is reversed as a whole. -/
lemma sort_descending (s : Store) (db key : String) (options : SortOptions) :
    s.sort db key { options with part := none, descending := true } =
      (s.sort db key { options with part := none, descending := false }).map List.reverse := by
  let whole (descending : Bool) : SortOptions := { options with part := none, descending }
  -- What is ascending depends neither on the part nor on the direction.
  have hsame : ∀ descending items,
      s.ascending db (whole descending) items = s.ascending db options items := fun _ _ => rfl
  show s.sort db key (whole true) = (s.sort db key (whole false)).map List.reverse
  cases hitems : s.sortItems db key with
  | error fault =>
    unfold sort
    rw [hitems]
    rfl
  | ok items =>
    cases hsorted : s.ascending db options items with
    | error fault =>
      rw [sort_of_error hitems ((hsame true items).trans hsorted),
        sort_of_error hitems ((hsame false items).trans hsorted)]
      rfl
    | ok sorted =>
      rw [sort_of_ascending hitems ((hsame true items).trans hsorted),
        sort_of_ascending hitems ((hsame false items).trans hsorted)]
      exact congrArg Except.ok List.map_reverse

/-- **Sorting answers the right part of the right order.**  When it succeeds, the key holds items
and there is an arrangement of them that ascends by their weights, equal ones in the order they had;
the answer is this arrangement, reversed for descending order, cut to the part that is asked for,
with what is answered for each item in its place.  So it has the length of that part, and without a
part all answers with their multiplicities, in descending order the reverse of those in ascending
order.

It fails exactly if the key holds no items or one of all items cannot be sorted. -/
theorem sort_exact (s : Store) (db key : String) (options : SortOptions) :
    (∀ result, s.sort db key options = .ok result →
      ∃ items sorted, s.Sortable db key items ∧ s.Ascending db options items sorted ∧
        result = (cut options (if options.descending then sorted.reverse else sorted)).map
          (s.answerFor db options) ∧
        result.length = cutLength options items.length ∧
        (options.part = none → result.Perm (items.map (s.answerFor db options)))) ∧
    ((∃ fault, s.sort db key options = .error fault) ↔
      s.value? db key = none ∨ (∃ data, s.value? db key = some (.string data)) ∨
        ∃ items, s.Sortable db key items ∧ ∃ item ∈ items, s.Unfit db options item) ∧
    s.sort db key { options with part := none, descending := true } =
      (s.sort db key { options with part := none, descending := false }).map List.reverse := by
  refine ⟨?answers, ?fails, s.sort_descending db key options⟩
  case answers =>
    intro result hresult
    obtain ⟨items, hitems, hrest⟩ := Layout.bind_eq_ok hresult
    obtain ⟨sorted, hsorted, -⟩ := Layout.bind_eq_ok hrest
    have hascending := ascending_of_ok hsorted
    rw [sort_of_ascending hitems hsorted] at hresult
    obtain rfl := Except.ok.inj hresult
    have hordered := hascending.directed_perm
    refine ⟨items, sorted, sortable_sortItems hitems, hascending, rfl, ?_, ?_⟩
    · rw [List.length_map, length_cut, hordered.length_eq]
    · intro hwhole
      rw [cut, hwhole]
      exact hordered.map _
  case fails =>
    constructor
    · rintro ⟨fault, hfault⟩
      cases hitems : s.sortItems db key with
      | error first => exact or_assoc.mp (.inl (sortItems_error.mp ⟨first, hitems⟩))
      | ok items =>
        refine .inr (.inr ⟨items, sortable_sortItems hitems, ?_⟩)
        by_contra hnone
        obtain ⟨sorted, hsorted, -⟩ :=
          ascending_of_fit fun item hitem hunfit => hnone ⟨item, hitem, hunfit⟩
        rw [sort_of_ascending hitems hsorted] at hfault
        cases hfault
    · intro h
      rcases or_assoc.mpr h with hempty | ⟨items, hsortable, item, hitem, hunfit⟩
      · obtain ⟨fault, hfault⟩ := sortItems_error.mpr hempty
        exact ⟨fault, by unfold sort; rw [hfault]; rfl⟩
      · obtain ⟨found, hfound, hsame⟩ := sortItems_of_sortable hsortable
        obtain ⟨fault, hfault⟩ := ascending_of_unfit ((hsame item).mpr hitem) hunfit
        exact ⟨fault, sort_of_error hfound hfault⟩

/-- The list 2, 1.0, 1, in which two items weigh the same.  The second and third place of the
descending order are answered; where a pattern names weights that are missing, sorting fails
although nothing is to be answered. -/
theorem sort_exact_tied :
    let items : List Bytes := [[0x32], [0x31, 0x2E, 0x30], [0x31]]
    let s := (Store.new true).put "0" "l" (.list items)
    let options : SortOptions := { part := some (1, 2), descending := true }
    let weighing : SortOptions := { weightPattern := some "w_*", part := some (0, 0) }
    (s.sort "0" "l" options = .ok [some [0x31], some [0x31, 0x2E, 0x30]] ∧
      ∃ items sorted, s.Sortable "0" "l" items ∧ s.Ascending "0" options items sorted ∧
        [some [0x31], some [0x31, 0x2E, 0x30]] =
          (cut options sorted.reverse).map (s.answerFor "0" options)) ∧
      ∃ fault, s.sort "0" "l" weighing = .error fault := by
  intro items s options weighing
  obtain ⟨hanswers, -⟩ := sort_exact s "0" "l" options
  obtain ⟨-, hfails, -⟩ := sort_exact s "0" "l" weighing
  have hheld : s.value? "0" "l" = some (.list items) := by decide +kernel
  have hanswer : s.sort "0" "l" options = .ok [some [0x31], some [0x31, 0x2E, 0x30]] := by
    let rank (item : Bytes) : Int := (Weight.rank? item).getD 0
    have hrank : ∀ item ∈ items, Weight.rank? item = some (rank item) := by decide +kernel
    have hsorted : s.ascending "0" options items =
        .ok (items.mergeSort fun a b => rank a ≤ rank b) :=
      ascending_of_ranks rfl (fun _ _ => rfl) hrank
    have horder : (items.mergeSort fun a b => rank a ≤ rank b) =
        [[0x31, 0x2E, 0x30], [0x31], [0x32]] := by
      have htied : rank [0x31, 0x2E, 0x30] ≤ rank [0x31] := by decide +kernel
      have hheavy : ¬ rank [0x32] ≤ rank [0x31, 0x2E, 0x30] ∧ ¬ rank [0x32] ≤ rank [0x31] := by
        decide +kernel
      simp [items, List.mergeSort, List.MergeSort.Internal.splitInTwo, hheavy, htied]
    rw [sort_of_ascending (by unfold sortItems; rw [hheld]) hsorted, horder]
    rfl
  obtain ⟨held, sorted, hsortable, hascending, hcut, -⟩ := hanswers _ hanswer
  have hmissing : s.value? "0" (keyFor "w_*" [0x32]) = none := by decide +kernel
  have hunfit : s.Unfit "0" weighing [0x32] := by
    refine .inl ⟨"w_*", rfl, by decide, fun weight => ?_⟩
    rw [hmissing]
    exact Option.some_ne_none _ |>.symm
  exact ⟨⟨hanswer, held, sorted, hsortable, hascending, hcut⟩,
    hfails.mpr (.inr (.inr ⟨items, .list hheld, [0x32], List.mem_cons_self, hunfit⟩))⟩

end Store

end ReplicatedStore
