import ReplicatedStore.Store.Basic

/-!
# Sets

Members are kept in their lexical order.  A set that loses its last member stays there, empty.
-/

open Std (ExtTreeSet)

namespace ReplicatedStore.Store

/-- Adds a member and answers whether it is new; a missing key gets a set of one member. -/
def addMember (s : Store) (db key : String) (member : Bytes) : Attempt Bool :=
  match s.set? db key with
  | .error e => (.error e, s)
  | .ok found =>
    let members := found.getD ∅
    (.ok (!members.contains member),
      (s.put db key (.set (members.insert member))).commit db "sadd" [Bytes.ofText key, member])

/-- The set of a key without a member; a missing key stays missing. -/
def eraseMember (s : Store) (db key : String) (found : Option Members) (member : Bytes) : Store :=
  match found with
  | some members => s.put db key (.set (members.erase member))
  | none => s

/-- Is the member in the set that was found? -/
def foundContains (found : Option Members) (member : Bytes) : Bool :=
  match found with
  | some members => members.contains member
  | none => false

/-- Removes a member and answers whether it was there; this counts as a change either way. -/
def removeMember (s : Store) (db key : String) (member : Bytes) : Attempt Bool :=
  match s.set? db key with
  | .error e => (.error e, s)
  | .ok found =>
    (.ok (foundContains found member),
      (s.eraseMember db key found member).commit db "srem" [Bytes.ofText key, member])

/-- How many members a set has, zero when the key does not exist. -/
def memberCount (s : Store) (db key : String) : Except StoreError Nat := do
  return ((← s.set? db key).getD ∅).size

/-- Is the member in the set? -/
def isMember (s : Store) (db key : String) (member : Bytes) : Except StoreError Bool := do
  return foundContains (← s.set? db key) member

/-- The members of a set in their order. -/
def members (s : Store) (db key : String) : Except StoreError (List Bytes) := do
  return ((← s.set? db key).getD ∅).toList

/-- Takes a member chosen by `pick`.  It is recorded as the removal of that member, so that replicas
remove the same one. -/
def popMember (s : Store) (pick : Nat) (db key : String) : Attempt (Option Bytes) :=
  match s.set? db key with
  | .error e => (.error e, s)
  | .ok found =>
    let candidates := (found.getD ∅).toList
    match candidates[pick % candidates.length]? with
    | some member =>
      (.ok (some member),
        (s.eraseMember db key found member).commit db "srem" [Bytes.ofText key, member])
    | none => (.ok none, s.commit db "spop" [Bytes.ofText key])

/-- Moves a member from one set to another and answers whether it was in the first.  Both keys must
hold sets if they exist; this counts as a change either way. -/
def moveMember (s : Store) (db source target : String) (member : Bytes) : Attempt Bool :=
  match s.set? db target, s.set? db source with
  | .error e, _ => (.error e, s)
  | .ok _, .error e => (.error e, s)
  | .ok _, .ok found =>
    let moved := foundContains found member
    let removed := s.eraseMember db source found member
    let left :=
      if moved then
        let members := ((removed.set? db target).toOption.join).getD ∅
        removed.put db target (.set (members.insert member))
      else removed
    (.ok moved, left.commit db "smove" [Bytes.ofText source, Bytes.ofText target, member])

/-! ## Set algebra -/

/-- The set that a key holds, none when it is missing or holds something else. -/
def operand? (s : Store) (db key : String) : Option Members :=
  match s.value? db key with
  | some (.set members) => some members
  | _ => none

/-- The sets among the keys, in the order of the keys. -/
def operands (s : Store) (db : String) (keys : List String) : List Members :=
  keys.filterMap (s.operand? db)

/-- The members that all sets share. -/
def intersectionOf : List Members → Members
  | [] => ∅
  | first :: rest => rest.foldl (fun acc members => acc.filter members.contains) first

/-- The members of any of the sets. -/
def unionOf (sets : List Members) : Members :=
  sets.foldl (fun acc members => acc.insertMany members.toList) ∅

/-- The members of the first set that are in no later one. -/
def differenceOf : List Members → Members
  | [] => ∅
  | first :: rest => rest.foldl (fun acc members => acc.filter fun m => !members.contains m) first

/-- The operations of set algebra. -/
inductive SetAlgebra where
  /-- What all sets share; nothing when a key holds no set. -/
  | intersection
  /-- What any set holds; keys that hold no set are skipped. -/
  | union
  /-- What the first set holds and no later one; keys that hold no set are skipped. -/
  | difference
  deriving DecidableEq, Repr

/-- The members that an operation finds in the sets of the keys. -/
def combine (s : Store) (op : SetAlgebra) (db : String) (keys : List String) : Members :=
  match op with
  | .intersection =>
    if keys.all fun key => (s.operand? db key).isSome then intersectionOf (s.operands db keys)
    else ∅
  | .union => unionOf (s.operands db keys)
  | .difference => differenceOf (s.operands db keys)

/-- The command that stores what an operation finds. -/
def SetAlgebra.storeCommand : SetAlgebra → String
  | .intersection => "sinterstore"
  | .union => "sunionstore"
  | .difference => "sdiffstore"

/-- Puts what an operation finds under a key, which loses what it held and its deadline. -/
def combineInto (s : Store) (op : SetAlgebra) (db target : String) (keys : List String) : Store :=
  ((s.clearDeadline db target).put db target (.set (s.combine op db keys))).commit db
    op.storeCommand ((target :: keys).map Bytes.ofText)

end ReplicatedStore.Store
