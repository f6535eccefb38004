import ReplicatedStore.Proofs.Store.Frame

/-!
# Lists by index and by item

Reading a range, trimming, reading one item and replacing one item all bring their indices to
positions in the same two ways: `ListIndex.position?` for a single index and `ListIndex.span?` for
the two ends of a range.  This file says what the positions are, apart from how they are found: an
index counts from the head, or from the tail if it is negative, and a range holds the positions
between its ends, both included, that the list has (`ListIndex.Between`).  From it follows that the
four operations agree with each other for every list and all indices (`indices_agree`).

The positions are found in signed words of 64 bits.  `ListIndex.wordSpan?` and
`ListIndex.wordPosition?` do the same with every sum checked; they never fail as long as the length
of the list is such a word, because an index is only added to a length when it is negative.

Occurrences of an item are removed from the head (`WithoutFirst`) or from the tail (`WithoutLast`).
The second is the first on the reversed list, in the definitions as in the model, so only removal
from the head is an induction (`withoutFirst_eraseFirst`, `occurrences_removed`).
-/

namespace ReplicatedStore

/-! ## Positions that indices name -/

namespace ListIndex

/-- The position lies between two indices, both included, and in the list.  Negative indices count
from the tail. -/
def Between (length : Nat) (start stop : Int) (position : Nat) : Prop :=
  max (if start < 0 then start + length else start) 0 ≤ position ∧
    position ≤ min (if stop < 0 then stop + length else stop) (length - 1)

instance (length : Nat) (start stop : Int) (position : Nat) :
    Decidable (Between length start stop position) :=
  inferInstanceAs (Decidable (_ ∧ _))

variable {length : Nat} {start stop index : Int} {first last position : Nat}

lemma position?_eq_some :
    position? length index = some position ↔
      fromHead length index = position ∧ position < length := by
  simp only [position?]
  split
  · simp only [Option.some.injEq]
    omega
  · simp only [reduceCtorEq, false_iff]
    omega

lemma span?_eq_some :
    span? length start stop = some (first, last) ↔
      max (fromHead length start) 0 = first ∧ min (fromHead length stop) (length - 1) = last ∧
        first ≤ last := by
  simp only [span?]
  split
  · simp only [Option.some.injEq, Prod.mk.injEq]
    omega
  · simp only [reduceCtorEq, false_iff]
    omega

/-- A range that is found lies within the list. -/
lemma span?_inside (h : span? length start stop = some (first, last)) :
    first ≤ last ∧ last < length := by
  rw [span?_eq_some] at h
  omega

lemma between_iff (h : span? length start stop = some (first, last)) :
    Between length start stop position ↔ first ≤ position ∧ position ≤ last := by
  rw [span?_eq_some] at h
  simp only [Between, fromHead] at h ⊢
  omega

lemma not_between (h : span? length start stop = none) : ¬ Between length start stop position := by
  simp only [span?] at h
  split at h
  · cases h
  · simp only [Between, fromHead] at *
    omega

lemma between_self (h : position? length index = some position) :
    Between length index index position := by
  rw [position?_eq_some] at h
  simp only [Between, fromHead] at h ⊢
  omega

/-- A range of one index holds the position of the index, if it has one. -/
lemma span?_self (length : Nat) (index : Int) :
    span? length index index =
      (position? length index).map fun position => (position, position) := by
  cases h : position? length index with
  | some position =>
    rw [position?_eq_some] at h
    simp only [Option.map_some, span?_eq_some]
    omega
  | none =>
    simp only [position?] at h
    split at h
    · cases h
    · simp only [span?, Option.map_none]
      rw [if_neg (by omega)]

/-! ### In words of 64 bits -/

/-- A number, if it is a signed word of 64 bits. -/
def word? (n : Int) : Option Int :=
  if Decimal.fitsSigned64 n then some n else none

/-- The index counted from the head; none if the sum is no word. -/
def wordFromHead? (length i : Int) : Option Int :=
  if i < 0 then word? (length + i) else some i

/-- The position that an index names, found in words; none if a number on the way is no word. -/
def wordPosition? (length : Nat) (i : Int) : Option (Option Nat) := do
  let size ← word? length
  let j ← wordFromHead? size i
  return if 0 ≤ j ∧ j < size then some j.toNat else none

/-- The positions between two indices, found in words; none if a number on the way is no word. -/
def wordSpan? (length : Nat) (start stop : Int) : Option (Option (Nat × Nat)) := do
  let size ← word? length
  let first := max (← wordFromHead? size start) 0
  let last := min (← wordFromHead? size stop) (← word? (size - 1))
  return if first ≤ last then some (first.toNat, last.toNat) else none

lemma fitsSigned64_iff {n : Int} :
    Decimal.fitsSigned64 n ↔ -0x8000000000000000 ≤ n ∧ n < 0x8000000000000000 := by
  simp [Decimal.fitsSigned64]

lemma word?_of_fits {n : Int} (h : Decimal.fitsSigned64 n) : word? n = some n :=
  if_pos h

/-- A length and a negative index have different signs, so their sum is a word. -/
lemma wordFromHead?_of_fits (hlength : Decimal.fitsSigned64 length)
    (hindex : Decimal.fitsSigned64 index) :
    wordFromHead? length index = some (fromHead length index) := by
  rw [fitsSigned64_iff] at hlength hindex
  by_cases hnegative : index < 0
  · have hsum : Decimal.fitsSigned64 (length + index) := by
      rw [fitsSigned64_iff]
      omega
    simp [wordFromHead?, fromHead, hnegative, word?_of_fits hsum]
  · simp [wordFromHead?, fromHead, hnegative]

lemma wordPosition?_of_fits (hlength : Decimal.fitsSigned64 length)
    (hindex : Decimal.fitsSigned64 index) :
    wordPosition? length index = some (position? length index) := by
  simp only [wordPosition?, position?, word?_of_fits hlength, wordFromHead?_of_fits hlength hindex,
    Option.bind_eq_bind, Option.bind_some, Option.pure_def]

lemma wordSpan?_of_fits (hlength : Decimal.fitsSigned64 length)
    (hstart : Decimal.fitsSigned64 start) (hstop : Decimal.fitsSigned64 stop) :
    wordSpan? length start stop = some (span? length start stop) := by
  have hlast : Decimal.fitsSigned64 ((length : Int) - 1) := by
    rw [fitsSigned64_iff] at hlength ⊢
    omega
  simp only [wordSpan?, span?, word?_of_fits hlength, word?_of_fits hlast,
    wordFromHead?_of_fits hlength hstart, wordFromHead?_of_fits hlength hstop,
    Option.bind_eq_bind, Option.bind_some, Option.pure_def]

end ListIndex

namespace Store

open ListIndex (Between)

/-! ## Items between two indices -/

/-- The items of a list at the positions between two indices, in their order. -/
def itemsBetween (items : List Bytes) (start stop : Int) : List Bytes :=
  (items.zipIdx.filter fun entry => Between items.length start stop entry.2).map Prod.fst

section Positions

variable {α : Type}

/-- The entries from a position on. -/
lemma filter_zipIdx_ge (items : List α) (count offset : Nat) :
    (items.zipIdx offset).filter (fun entry => offset + count ≤ entry.2) =
      (items.drop count).zipIdx (offset + count) := by
  induction items generalizing count offset with
  | nil => simp
  | cons item rest ih =>
    cases count with
    | zero =>
      simp only [List.drop_zero, Nat.add_zero, List.filter_eq_self, decide_eq_true_eq]
      exact fun entry => List.le_snd_of_mem_zipIdx
    | succ count =>
      have hrest := ih count (offset + 1)
      rw [Nat.add_right_comm, Nat.add_assoc] at hrest
      simp [hrest]

/-- The entries before a position. -/
lemma filter_zipIdx_lt (items : List α) (count offset : Nat) :
    (items.zipIdx offset).filter (fun entry => entry.2 < offset + count) =
      (items.take count).zipIdx offset := by
  induction items generalizing count offset with
  | nil => simp
  | cons item rest ih =>
    cases count with
    | zero =>
      simp only [List.take_zero, List.zipIdx_nil, Nat.add_zero, List.filter_eq_nil_iff,
        decide_eq_true_eq, Nat.not_lt]
      exact fun entry => List.le_snd_of_mem_zipIdx
    | succ count =>
      have hrest := ih count (offset + 1)
      rw [Nat.add_right_comm, Nat.add_assoc] at hrest
      simp [hrest]

lemma drop_take_eq_filter (items : List α) (first last : Nat) :
    (items.take (last + 1)).drop first =
      (items.zipIdx.filter fun entry => first ≤ entry.2 ∧ entry.2 ≤ last).map Prod.fst := by
  have htake := filter_zipIdx_lt items (last + 1) 0
  have hdrop := filter_zipIdx_ge (items.take (last + 1)) first 0
  simp only [Nat.zero_add, Nat.lt_succ_iff] at htake hdrop
  have hboth : (items.zipIdx.filter fun entry => first ≤ entry.2 ∧ entry.2 ≤ last) =
      ((items.take (last + 1)).drop first).zipIdx first := by
    rw [← hdrop, ← htake, List.filter_filter]
    simp
  rw [hboth, List.zipIdx_map_fst]

end Positions

/-- The items between two indices are those at the positions between them. -/
lemma slice_eq_itemsBetween (items : List Bytes) (start stop : Int) :
    slice items start stop = itemsBetween items start stop := by
  rw [slice, itemsBetween]
  cases h : ListIndex.span? items.length start stop with
  | none => simp [ListIndex.not_between h]
  | some span =>
    obtain ⟨first, last⟩ := span
    simp only [ListIndex.between_iff h]
    exact drop_take_eq_filter items first last

/-- Between an index and itself there is the item at its position, if it has one. -/
lemma slice_self (items : List Bytes) (index : Int) :
    slice items index index =
      ((ListIndex.position? items.length index).bind fun position => items[position]?).toList := by
  rw [slice, ListIndex.span?_self]
  cases ListIndex.position? items.length index with
  | none => simp
  | some position => simp [List.drop_take, List.take_one]

/-! ## Reading and writing lists -/

section Access

variable {s : Store} {db key : String} {items : List Bytes}

/-- A store after one of its lists changed: the key holds the items, and every other key and all
deadlines are as before. -/
structure Relisted (s left : Store) (db key : String) (items : List Bytes) : Prop where
  value : left.value? db key = some (.list items)
  others : ∀ d k, ¬ (d = db ∧ k = key) → left.value? d k = s.value? d k
  deadlines : ∀ d k, left.deadline? d k = s.deadline? d k

lemma relisted_put (s : Store) (db key : String) (items : List Bytes) (op : Operation) :
    s.Relisted ((s.put db key (.list items)).commit db op.command (op.arguments db)) db key
      items where
  value := by simp [value?_put]
  others := by
    intro d k hother
    simp [value?_put, hother]
  deadlines := by simp

lemma list?_of_value (h : s.value? db key = some (.list items)) :
    s.list? db key = .ok (some items) := by
  simp [list?, h]

lemma listRange_of_value (h : s.value? db key = some (.list items)) (start stop : Int) :
    s.listRange db key start stop = .ok (slice items start stop) := by
  simp [listRange, list?_of_value h, bind, Except.bind, pure, Except.pure]

lemma itemAt_of_value (h : s.value? db key = some (.list items)) (index : Int) :
    s.itemAt db key index =
      .ok ((ListIndex.position? items.length index).bind fun position => items[position]?) := by
  simp [itemAt, list?_of_value h, bind, Except.bind, pure, Except.pure]

lemma trim_of_value (h : s.value? db key = some (.list items)) (start stop : Int)
    (now pick : Nat) :
    ∃ left, (Operation.trim key start stop).perform s now pick db = (.ok .done, left) ∧
      s.Relisted left db key (slice items start stop) := by
  refine ⟨_, ?_, s.relisted_put db key _ (.trim key start stop)⟩
  simp [Operation.perform, Operation.maybe, trim, list?_of_value h, Except.map,
    Operation.command, Operation.arguments]

/-- An item is replaced exactly where there is one. -/
lemma setItem_of_value (h : s.value? db key = some (.list items)) (index : Int) (item : Bytes)
    (now pick : Nat) :
    (ListIndex.position? items.length index = none ∧
      (Operation.setItem key index item).perform s now pick db = (.error .indexOutOfRange, s)) ∨
    ∃ position left, ListIndex.position? items.length index = some position ∧
      (Operation.setItem key index item).perform s now pick db = (.ok .done, left) ∧
      s.Relisted left db key (items.set position item) := by
  cases hposition : ListIndex.position? items.length index with
  | none =>
    refine .inl ⟨rfl, ?_⟩
    simp [Operation.perform, Operation.maybe, setItem, list?_of_value h, hposition, Except.map]
  | some position =>
    refine .inr ⟨position, _, rfl, ?_, s.relisted_put db key _ (.setItem key index item)⟩
    simp [Operation.perform, Operation.maybe, setItem, list?_of_value h, hposition, Except.map,
      Operation.command, Operation.arguments]

end Access

/-- **Indices and ranges agree.**  In a key that holds a list, a range is the items at the positions
between its ends, in order; trimming leaves what the range was; the item at an index is what the
range from the index to itself holds; and an item is replaced exactly where there is one to be read,
which changes that one position and nothing else.  All positions are in the list, and none of the
sums that lead to them leaves the words of 64 bits. -/
theorem indices_agree (s : Store) (db key : String) (items : List Bytes)
    (hkey : s.value? db key = some (.list items)) (now pick : Nat) :
    (∀ start stop, ∃ left, s.listRange db key start stop = .ok (itemsBetween items start stop) ∧
      (Operation.trim key start stop).perform s now pick db = (.ok .done, left) ∧
      s.Relisted left db key (itemsBetween items start stop)) ∧
    (∀ index, ∃ found, s.itemAt db key index = .ok found ∧
      s.listRange db key index index = .ok found.toList) ∧
    (∀ index item,
      (s.itemAt db key index = .ok none ∧
        (Operation.setItem key index item).perform s now pick db = (.error .indexOutOfRange, s)) ∨
      ∃ position old left, Between items.length index index position ∧
        items[position]? = some old ∧ s.itemAt db key index = .ok (some old) ∧
        (Operation.setItem key index item).perform s now pick db = (.ok .done, left) ∧
        s.Relisted left db key (items.set position item)) ∧
    (∀ start stop first last, ListIndex.span? items.length start stop = some (first, last) →
      first ≤ last ∧ last < items.length) ∧
    (∀ index position, ListIndex.position? items.length index = some position →
      position < items.length) ∧
    (Decimal.fitsSigned64 items.length → ∀ start stop, Decimal.fitsSigned64 start →
      Decimal.fitsSigned64 stop →
      ListIndex.wordSpan? items.length start stop = some (ListIndex.span? items.length start stop) ∧
      ListIndex.wordPosition? items.length start =
        some (ListIndex.position? items.length start)) := by
  refine ⟨?range, ?item, ?replace, ?span, ?position, ?words⟩
  case range =>
    intro start stop
    obtain ⟨left, hperform, hleft⟩ := trim_of_value hkey start stop now pick
    rw [slice_eq_itemsBetween] at hleft
    exact ⟨left, by rw [listRange_of_value hkey, slice_eq_itemsBetween], hperform, hleft⟩
  case item =>
    intro index
    exact ⟨_, itemAt_of_value hkey index, by rw [listRange_of_value hkey, slice_self]⟩
  case replace =>
    intro index item
    rw [itemAt_of_value hkey]
    rcases setItem_of_value hkey index item now pick with
      ⟨hnone, hperform⟩ | ⟨position, left, hsome, hperform, hleft⟩
    · exact .inl ⟨by simp [hnone], hperform⟩
    · have hinside := (ListIndex.position?_eq_some.mp hsome).2
      refine .inr ⟨position, items[position], left, ListIndex.between_self hsome, ?_, ?_, hperform,
        hleft⟩
      · simp
      · simp [hsome]
  case span => exact fun _ _ _ _ => ListIndex.span?_inside
  case position => exact fun _ _ h => (ListIndex.position?_eq_some.mp h).2
  case words =>
    intro hlength start stop hstart hstop
    exact ⟨ListIndex.wordSpan?_of_fits hlength hstart hstop,
      ListIndex.wordPosition?_of_fits hlength hstart⟩

/-- A new store in which the items were added to the end of a list, one after the other. -/
def listed (items : List Bytes) : Store :=
  (items.map fun item => Action.perform (.push "l" item .tail) 0 "0").foldl (Action.run 0)
    (new true)

/-- A list of three items, with the least and the greatest index. -/
theorem indices_agree_extremes :
    let s := listed [[1], [2], [3]]
    let least : Int := -0x8000000000000000
    let greatest : Int := 0x7FFFFFFFFFFFFFFF
    s.value? "0" "l" = some (.list [[1], [2], [3]]) ∧
      (∃ left, s.listRange "0" "l" least (-2) = .ok [[1], [2]] ∧
        (Operation.trim "l" least (-2)).perform s 0 0 "0" = (.ok .done, left) ∧
        s.Relisted left "0" "l" [[1], [2]]) ∧
      s.listRange "0" "l" greatest greatest = .ok [] ∧
      (Operation.setItem "l" least [4]).perform s 0 0 "0" = (.error .indexOutOfRange, s) ∧
      ListIndex.wordSpan? 3 least greatest = some (some (0, 2)) := by
  intro s least greatest
  have hkey : s.value? "0" "l" = some (.list [[1], [2], [3]]) := by decide +kernel
  have hnone : s.itemAt "0" "l" greatest = .ok none := by decide +kernel
  obtain ⟨hrange, hitem, hset, -, -, hwords⟩ := indices_agree s "0" "l" _ hkey 0 0
  obtain ⟨found, hread, hself⟩ := hitem greatest
  obtain rfl : none = found := by simpa [hnone] using hread
  refine ⟨hkey, hrange least (-2), hself, ?_, (hwords (by decide) least greatest (by decide)
    (by decide)).1⟩
  rcases hset least [4] with ⟨-, hrefused⟩ | ⟨position, old, left, hbetween, -⟩
  · exact hrefused
  · simp only [Between, least, List.length_cons, List.length_nil] at hbetween
    omega

/-! ## Removing occurrences of an item -/

section Occurrences

variable {item : Bytes} {n : Nat} {items kept : List Bytes}

/-- `kept` is what is left of the items without the first `n` occurrences of `item`: these all
stand in front, and behind them nothing is removed. -/
def WithoutFirst (item : Bytes) (n : Nat) (items kept : List Bytes) : Prop :=
  ∃ front back, items = front ++ back ∧ front.count item = n ∧
    kept = front.filter (· ≠ item) ++ back

/-- `kept` is what is left of the items without the last `n` occurrences of `item`. -/
def WithoutLast (item : Bytes) (n : Nat) (items kept : List Bytes) : Prop :=
  ∃ front back, items = front ++ back ∧ back.count item = n ∧
    kept = front ++ back.filter (· ≠ item)

/-- How many occurrences an operation with the count removes. -/
def removedBy (count : Int) (item : Bytes) (items : List Bytes) : Nat :=
  if count = 0 then items.count item else min count.natAbs (items.count item)

lemma withoutFirst_reverse :
    WithoutFirst item n items.reverse kept.reverse ↔ WithoutLast item n items kept := by
  constructor
  · rintro ⟨front, back, hitems, hcount, hkept⟩
    refine ⟨back.reverse, front.reverse, ?_, by simp [hcount], ?_⟩
    · simpa using congrArg List.reverse hitems
    · simpa using congrArg List.reverse hkept
  · rintro ⟨front, back, rfl, hcount, rfl⟩
    exact ⟨back.reverse, front.reverse, by simp, by simp [hcount], by simp⟩

/-- Erasing takes out the first occurrences, as many as the budget allows. -/
lemma withoutFirst_eraseFirst (item : Bytes) (budget : Nat) (items : List Bytes) :
    WithoutFirst item (min budget (items.count item)) items (eraseFirst item budget items) := by
  induction items generalizing budget with
  | nil => exact ⟨[], [], by simp [eraseFirst]⟩
  | cons candidate rest ih =>
    cases budget with
    | zero => exact ⟨[], candidate :: rest, by simp [eraseFirst]⟩
    | succ budget =>
      by_cases hsame : candidate = item
      · obtain ⟨front, back, hrest, hcount, hkept⟩ := ih budget
        refine ⟨candidate :: front, back, by simp [hrest], ?_, by simp [eraseFirst, hsame, hkept]⟩
        simp only [hsame, List.count_cons_self, hcount]
        omega
      · obtain ⟨front, back, hrest, hcount, hkept⟩ := ih (budget + 1)
        refine ⟨candidate :: front, back, by simp [hrest], ?_, by simp [eraseFirst, hsame, hkept]⟩
        simp [List.count_cons_of_ne hsame, hcount]

lemma WithoutFirst.length_add (h : WithoutFirst item n items kept) :
    kept.length + n = items.length := by
  obtain ⟨front, back, rfl, rfl, rfl⟩ := h
  have hfront : front.length = front.count item + (front.filter (· ≠ item)).length := by
    rw [front.length_eq_countP_add_countP (p := (· == item)), ← List.countP_eq_length_filter]
    simp [List.count]
  simp only [List.length_append]
  omega

/-- Without all occurrences, nothing but the other items is left. -/
lemma withoutFirst_filter (item : Bytes) (items : List Bytes) :
    WithoutFirst item (items.count item) items (items.filter (· ≠ item)) :=
  ⟨items, [], by simp⟩

/-- Counting from the tail is counting from the head of the reversed list. -/
lemma eraseCounted_neg (item : Bytes) (count : Int) (items : List Bytes) :
    eraseCounted item (-count) items.reverse = (eraseCounted item count items).reverse := by
  rcases Int.lt_trichotomy count 0 with hneg | rfl | hpos
  · have hne : count ≠ 0 := by omega
    have hnot : ¬ 0 < count := by omega
    simp [eraseCounted, hne, hnot, hneg]
  · simp [eraseCounted]
  · have hne : count ≠ 0 := by omega
    have hnot : ¬ count < 0 := by omega
    simp [eraseCounted, hne, hnot, hpos]

lemma removedBy_neg (item : Bytes) (count : Int) (items : List Bytes) :
    removedBy (-count) item items.reverse = removedBy count item items := by
  simp [removedBy]

lemma withoutFirst_eraseCounted (item : Bytes) {count : Int} (h : 0 ≤ count)
    (items : List Bytes) :
    WithoutFirst item (removedBy count item items) items (eraseCounted item count items) := by
  by_cases hzero : count = 0
  · have hall := withoutFirst_filter item items
    simpa [removedBy, eraseCounted, hzero] using hall
  · have hpos : 0 < count := by omega
    have hbudget : count.natAbs = count.toNat := by omega
    have hfirst := withoutFirst_eraseFirst item count.toNat items
    simpa [removedBy, eraseCounted, hzero, hpos, hbudget] using hfirst

lemma withoutLast_eraseCounted (item : Bytes) {count : Int} (h : count ≤ 0)
    (items : List Bytes) :
    WithoutLast item (removedBy count item items) items (eraseCounted item count items) := by
  have hcount : 0 ≤ -count := by omega
  have hmirrored := withoutFirst_eraseCounted item hcount items.reverse
  rwa [removedBy_neg, eraseCounted_neg, withoutFirst_reverse] at hmirrored

lemma length_eraseCounted (item : Bytes) (count : Int) (items : List Bytes) :
    (eraseCounted item count items).length + removedBy count item items = items.length := by
  rcases Int.le_total 0 count with hcount | hcount
  · exact (withoutFirst_eraseCounted item hcount items).length_add
  · have hlast := withoutLast_eraseCounted item hcount items
    simpa using (withoutFirst_reverse.mpr hlast).length_add

lemma removeItems_of_value {s : Store} {db key : String}
    (h : s.value? db key = some (.list items)) (count : Int) (item : Bytes) (now pick : Nat) :
    ∃ left, (Operation.removeItems key count item).perform s now pick db =
        (.ok (.count (removedBy count item items)), left) ∧
      s.Relisted left db key (eraseCounted item count items) := by
  have hlength := length_eraseCounted item count items
  have hremoved : items.length - (eraseCounted item count items).length =
      removedBy count item items := by omega
  refine ⟨_, ?_, s.relisted_put db key _ (.removeItems key count item)⟩
  simp [Operation.perform, Operation.maybe, removeItems, list?_of_value h, Except.map, hremoved,
    Operation.command, Operation.arguments]

end Occurrences

/-- **Occurrences are removed from one side.**  A count of zero removes all occurrences, any other
as many as its absolute value if there are so many: the first ones for a positive count and the last
ones for a negative one.  All other items stay in their order.  So removing with the opposite count
from the reversed list leaves the reversed items. -/
theorem occurrences_removed (s : Store) (db key : String) (items : List Bytes)
    (hkey : s.value? db key = some (.list items)) (now pick : Nat) (count : Int) (item : Bytes) :
    ∃ kept left, (Operation.removeItems key count item).perform s now pick db =
        (.ok (.count (removedBy count item items)), left) ∧
      s.Relisted left db key kept ∧
      (0 ≤ count → WithoutFirst item (removedBy count item items) items kept) ∧
      (count ≤ 0 → WithoutLast item (removedBy count item items) items kept) ∧
      ∀ mirrored : Store, mirrored.value? db key = some (.list items.reverse) →
        ∃ turned, (Operation.removeItems key (-count) item).perform mirrored now pick db =
            (.ok (.count (removedBy count item items)), turned) ∧
          mirrored.Relisted turned db key kept.reverse := by
  obtain ⟨left, hperform, hleft⟩ := removeItems_of_value hkey count item now pick
  refine ⟨_, left, hperform, hleft, fun h => withoutFirst_eraseCounted item h items,
    fun h => withoutLast_eraseCounted item h items, ?_⟩
  intro mirrored hmirrored
  have hturned := removeItems_of_value hmirrored (-count) item now pick
  rwa [removedBy_neg, eraseCounted_neg] at hturned

/-- The least count removes what there is, and -2 leaves the first of three occurrences. -/
theorem occurrences_removed_least :
    let items : List Bytes := [[2], [1], [2], [3], [2]]
    let s := listed items
    let least : Int := -0x8000000000000000
    s.value? "0" "l" = some (.list items) ∧
      (∃ kept left, (Operation.removeItems "l" least [2]).perform s 0 0 "0" =
          (.ok (.count 3), left) ∧
        s.Relisted left "0" "l" kept ∧ WithoutLast [2] 3 items kept) ∧
      ∃ kept left, (Operation.removeItems "l" (-2) [2]).perform s 0 0 "0" =
          (.ok (.count 2), left) ∧
        s.Relisted left "0" "l" kept ∧ WithoutLast [2] 2 items kept := by
  intro items s least
  have hkey : s.value? "0" "l" = some (.list items) := by decide +kernel
  obtain ⟨all, left, hperform, hleft, -, hlast, -⟩ :=
    occurrences_removed s "0" "l" items hkey 0 0 least [2]
  obtain ⟨some, left', hperform', hleft', -, hlast', -⟩ :=
    occurrences_removed s "0" "l" items hkey 0 0 (-2) [2]
  exact ⟨hkey, ⟨all, left, hperform, hleft, hlast (by decide)⟩,
    some, left', hperform', hleft', hlast' (by decide)⟩

end Store

end ReplicatedStore
