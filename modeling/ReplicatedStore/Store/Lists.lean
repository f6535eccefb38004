import ReplicatedStore.Store.Basic

/-!
# Lists

Indices count from the head, negative ones from the tail, where -1 is the last item.  A list that
loses its last item stays there, empty.
-/

namespace ReplicatedStore

namespace ListIndex

/-- The index counted from the head. -/
def fromHead (length : Nat) (i : Int) : Int :=
  if i < 0 then length + i else i

/-- The position that an index names in a list of the given length. -/
def position? (length : Nat) (i : Int) : Option Nat :=
  let j := fromHead length i
  if 0 ≤ j ∧ j < length then some j.toNat else none

/-- The first and last position between two indices, both included, if there is any. -/
def span? (length : Nat) (start stop : Int) : Option (Nat × Nat) :=
  let first := max (fromHead length start) 0
  let last := min (fromHead length stop) (length - 1)
  if first ≤ last then some (first.toNat, last.toNat) else none

end ListIndex

namespace Store

/-- The items between two indices, both included. -/
def slice (items : List Bytes) (start stop : Int) : List Bytes :=
  match ListIndex.span? items.length start stop with
  | some (first, last) => (items.take (last + 1)).drop first
  | none => []

/-- The items without the first `budget` occurrences of `item`. -/
def eraseFirst (item : Bytes) : Nat → List Bytes → List Bytes
  | _, [] => []
  | 0, items => items
  | budget + 1, candidate :: rest =>
    if candidate = item then eraseFirst item budget rest
    else candidate :: eraseFirst item (budget + 1) rest

/-- The items without the first `count` occurrences of `item`, the last ones for a negative count,
or all of them when the count is zero. -/
def eraseCounted (item : Bytes) (count : Int) (items : List Bytes) : List Bytes :=
  if count = 0 then items.filter (· ≠ item)
  else if 0 < count then eraseFirst item count.toNat items
  else (eraseFirst item (-count).toNat items.reverse).reverse

/-- Adds an item at one end of a list; a missing key gets a list of one item. -/
def push (s : Store) (db key : String) (item : Bytes) (side : ListEnd) : Attempt Unit :=
  match s.list? db key with
  | .error e => (.error e, s)
  | .ok found =>
    let items := found.getD []
    let (command, longer) := match side with
      | .head => ("lpush", item :: items)
      | .tail => ("rpush", items ++ [item])
    (.ok (), (s.put db key (.list longer)).commit db command [Bytes.ofText key, item])

/-- The length of a list, zero when the key does not exist. -/
def listLength (s : Store) (db key : String) : Except StoreError Nat := do
  return ((← s.list? db key).getD []).length

/-- The items between two indices. -/
def listRange (s : Store) (db key : String) (start stop : Int) :
    Except StoreError (List Bytes) := do
  return slice ((← s.list? db key).getD []) start stop

/-- Keeps only the items between two indices. -/
def trim (s : Store) (db key : String) (start stop : Int) : Attempt Unit :=
  match s.list? db key with
  | .error e => (.error e, s)
  | .ok none => (.error .noSuchKey, s)
  | .ok (some items) =>
    (.ok (), (s.put db key (.list (slice items start stop))).commit db "ltrim"
      [Bytes.ofText key, Bytes.ofText (Decimal.ofInt start), Bytes.ofText (Decimal.ofInt stop)])

/-- The item at an index. -/
def itemAt (s : Store) (db key : String) (index : Int) : Except StoreError (Option Bytes) := do
  let items := (← s.list? db key).getD []
  return (ListIndex.position? items.length index).bind fun i => items[i]?

/-- Replaces the item at an index. -/
def setItem (s : Store) (db key : String) (index : Int) (item : Bytes) : Attempt Unit :=
  match s.list? db key with
  | .error e => (.error e, s)
  | .ok none => (.error .noSuchKey, s)
  | .ok (some items) =>
    match ListIndex.position? items.length index with
    | none => (.error .indexOutOfRange, s)
    | some i =>
      (.ok (), (s.put db key (.list (items.set i item))).commit db "lset"
        [Bytes.ofText key, Bytes.ofText (Decimal.ofInt index), item])

/-- Removes occurrences of an item and answers how many. -/
def removeItems (s : Store) (db key : String) (count : Int) (item : Bytes) : Attempt Nat :=
  match s.list? db key with
  | .error e => (.error e, s)
  | .ok none => (.error .noSuchKey, s)
  | .ok (some items) =>
    let kept := eraseCounted item count items
    (.ok (items.length - kept.length), (s.put db key (.list kept)).commit db "lrem"
      [Bytes.ofText key, Bytes.ofText (Decimal.ofInt count), item])

/-- Takes the item at one end of a list; this counts as a change also when there is none. -/
def pop (s : Store) (db key : String) (side : ListEnd) : Attempt (Option Bytes) :=
  match s.list? db key with
  | .error e => (.error e, s)
  | .ok found =>
    let items := found.getD []
    let (command, item, shorter) := match side with
      | .head => ("lpop", items.head?, items.tail)
      | .tail => ("rpop", items.getLast?, items.dropLast)
    let left := if found.isSome then s.put db key (.list shorter) else s
    (.ok item, left.commit db command [Bytes.ofText key])

end Store

end ReplicatedStore
