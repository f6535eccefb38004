import ReplicatedStore.Store.Basic
import ReplicatedStore.Weight

/-!
# Sorting

The items of a list or set are put in ascending order of their weights, equal ones in the order they
had, and then reversed if asked for.  An item weighs what it is itself or what a key named after it
holds; weights compare as numbers or, if asked for, as octets.  A part of the sequence is cut out,
and each item answered as it is or by what a key named after it holds.
-/

namespace ReplicatedStore

/-- How to sort. -/
structure SortOptions where
  /-- The pattern of the keys that hold the weights. -/
  weightPattern : Option String := none
  /-- The pattern of the keys that are answered. -/
  answerPattern : Option String := none
  /-- The first place that is answered and the number of places. -/
  part : Option (Nat × Nat) := none
  /-- Reverse the order? -/
  descending : Bool := false
  /-- Compare the weights as octets? -/
  alpha : Bool := false
  deriving DecidableEq, Repr

namespace Store

/-- The key that a pattern names for an item, which takes the place of every star. -/
def keyFor (pattern : String) (item : Bytes) : String :=
  String.ofList (pattern.toList.flatMap fun c => if c = '*' then item.lossyText.toList else [c])

/-- Does the pattern name a key after the item at all? -/
def hasStar (pattern : String) : Bool :=
  pattern.toList.contains '*'

/-- The items of a list, from its head, or of a set, in their order. -/
def sortItems (s : Store) (db key : String) : Except StoreError (List Bytes) :=
  match s.value? db key with
  | some (.list items) => .ok items
  | some (.set members) => .ok members.toList
  | some (.string _) => .error .wrongType
  | none => .error .noSuchKey

/-- The weight of an item.  A pattern without a star names no key and is left aside. -/
def weightOf (s : Store) (db : String) (options : SortOptions) (item : Bytes) :
    Except StoreError Bytes :=
  match options.weightPattern.filter hasStar with
  | none => .ok item
  | some pattern =>
    match s.get? db (keyFor pattern item) with
    | some weight => .ok weight
    | none => .error (.sort (.missingWeight (keyFor pattern item)))

/-- The rank of a weight as a number. -/
def rankOf (weight : Bytes) : Except StoreError Int :=
  match Weight.rank? weight with
  | some rank => .ok rank
  | none => .error (.sort (.notNumber weight))

/-- The items in ascending order of their weights. -/
def ascending (s : Store) (db : String) (options : SortOptions) (items : List Bytes) :
    Except StoreError (List Bytes) := do
  let weighted ← items.mapM fun item => do return (← s.weightOf db options item, item)
  if options.alpha then
    return (weighted.mergeSort fun a b => (compare a.1 b.1).isLE).map Prod.snd
  else
    let ranked ← weighted.mapM fun (weight, item) => do return (← rankOf weight, item)
    return (ranked.mergeSort fun a b => a.1 ≤ b.1).map Prod.snd

/-- What is answered for an item: the item, or what the key named after it holds. -/
def answerFor (s : Store) (db : String) (options : SortOptions) (item : Bytes) : Option Bytes :=
  match options.answerPattern with
  | none => some item
  | some pattern => if pattern = "#" then some item else s.get? db (keyFor pattern item)

/-- Sorts the items of a list or set. -/
def sort (s : Store) (db key : String) (options : SortOptions) :
    Except StoreError (List (Option Bytes)) := do
  let sorted ← s.ascending db options (← s.sortItems db key)
  let ordered := if options.descending then sorted.reverse else sorted
  let answered := match options.part with
    | some (start, count) => (ordered.drop start).take count
    | none => ordered
  return answered.map (s.answerFor db options)

end Store

end ReplicatedStore
