import ReplicatedStore.Pattern.Regex.Build
import ReplicatedStore.Text.Bytes
import ReplicatedStore.Text.OctetRanges

/-!
# The size of regular expressions

A text is searched with a machine that reads octets.  Each of its states takes 32 octets of memory,
and more when it leads on to several others: 4 for each state that it goes on to without reading, 8
for each range of octets that it reads.  A second machine reads texts backwards.  An expression for
which either machine takes more than ten mebibytes is too large.
-/

namespace ReplicatedStore.Regex

open Text (CharSet OctetRow)

/-- The size of a state. -/
def stateSize : Nat := 32

/-- The size of a state that goes on to others without reading. -/
def forkSize (count : Nat) : Nat :=
  stateSize + 4 * count

/-- The size of a state that reads an octet of some ranges. -/
def readSize (count : Nat) : Nat :=
  stateSize + 8 * count

/-! ## Sets of characters -/

/-- What follows each first range of some rows; rows that begin with one range stand together. -/
def rowBranches : List OctetRow → List ((Nat × Nat) × List OctetRow)
  | [] => []
  | [] :: rest => rowBranches rest
  | (range :: row) :: rest =>
    match rowBranches rest with
    | (first, rows) :: more =>
      if range = first then (first, row :: rows) :: more
      else (range, [row]) :: (first, rows) :: more
    | [] => [(range, [row])]

/-- What follows the first ranges, each only once and without what is at its end. -/
def rowsBehind (states : List (List OctetRow)) : List (List OctetRow) :=
  ((states.flatMap fun rows => (rowBranches rows).map Prod.snd).filter (· ≠ [[]])).eraseDups

/-- The size of the states that read the rows forwards; what follows in the same way is shared. -/
def forwardSize (rows : List OctetRow) : Nat :=
  let second := rowsBehind [rows]
  let third := rowsBehind second
  let fourth := rowsBehind third
  let states := (rows :: second ++ third ++ fourth).eraseDups
  (states.map fun rows => readSize (rowBranches rows).length).foldl (· + ·) stateSize

/-- How many ranges of a row do not begin the row before it as well. -/
def newRanges (before row : OctetRow) : Nat :=
  match before, row with
  | first :: before, range :: row => if first = range then newRanges before row else row.length + 1
  | _, row => row.length

/-- How many beginnings the rows have; neighbours share theirs. -/
def beginnings (before : OctetRow) : List OctetRow → Nat
  | [] => 0
  | row :: rest => newRanges before row + beginnings row rest

/-- The size of the states that read the rows backwards; what begins in the same way is shared. -/
def backwardSize (rows : List OctetRow) : Nat :=
  forkSize rows.length + stateSize + stateSize * beginnings [] rows

/-- The size of the states for one character of a set. -/
def setSize (backwards : Bool) (chars : CharSet) : Nat :=
  if chars.isBelow 0x80 then readSize chars.ranges.length + stateSize
  else if backwards then backwardSize chars.octetRows
  else forwardSize chars.octetRows

/-! ## Words -/

/-- The ways on from a place in a tree of words: each octet with the words that go on with it.  A
word that ends at the place closes the ways that came before it. -/
structure Crossing where
  /-- The ways that were closed. -/
  closed : List (List (UInt8 × List (List UInt8)))
  /-- The ways since then. -/
  ways : List (UInt8 × List (List UInt8))

/-- Adds a word to the way with its first octet. -/
def addToWay (octet : UInt8) (word : List UInt8) :
    List (UInt8 × List (List UInt8)) → List (UInt8 × List (List UInt8))
  | [] => [(octet, [word])]
  | (other, words) :: rest =>
    if other = octet then (other, words ++ [word]) :: rest
    else (other, words) :: addToWay octet word rest

/-- The crossing with one more word. -/
def Crossing.add (c : Crossing) : List UInt8 → Crossing
  | [] =>
    if !c.closed.isEmpty && c.closed.all List.isEmpty && c.ways.isEmpty then c
    else ⟨c.closed ++ [c.ways], []⟩
  | octet :: word => { c with ways := addToWay octet word c.ways }

/-- The size of the states behind a place of a tree of words; a place where all words end has none.
The words are not longer than `budget`. -/
def treeSize : Nat → List (List UInt8) → Nat
  | 0, _ => 0
  | budget + 1, words =>
    if words.all List.isEmpty then 0
    else
      let crossing := words.foldl Crossing.add ⟨[], []⟩
      let used := (crossing.closed ++ [crossing.ways]).filter fun ways => !ways.isEmpty
      let reads := used.map fun ways =>
        (if ways.length = 1 then stateSize else readSize ways.length) +
          (ways.map fun way => treeSize budget way.2).foldl (· + ·) 0
      forkSize (used.length + crossing.closed.length) + reads.foldl (· + ·) 0

/-- The size of the states for any of several words. -/
def wordsSize (words : List (List UInt8)) : Nat :=
  stateSize + treeSize ((words.map List.length).foldl max 0 + 1) words

/-- The text that an expression is. -/
def word? : Regex → Option (List Char)
  | .text word => some word
  | _ => none

/-- The octets of a word, in the order in which they are read. -/
def octetsRead (backwards : Bool) (word : List Char) : List UInt8 :=
  let octets := Bytes.ofText (String.ofList word)
  if backwards then octets.reverse else octets

/-! ## Expressions -/

/-- The size of so many copies of what takes `size`. -/
def copiesSize (size count : Nat) : Nat :=
  if count = 0 then stateSize else count * size

/-- The size of a repetition of what takes `size`; `takesSome` says that it is never empty. -/
def timesSize (takesSome : Bool) (size least : Nat) : Option Nat → Nat
  | none =>
    if least = 0 then
      if takesSome then forkSize 2 + size else size + 2 * forkSize 2 + stateSize
    else least * size + forkSize 2
  | some most =>
    if least = 0 ∧ most = 1 then forkSize 2 + stateSize + size
    else if least = most then copiesSize size least
    else copiesSize size least + stateSize + (most - least) * (forkSize 2 + size)

mutual

/-- The size of the states for an expression. -/
def size (backwards : Bool) : Regex → Nat
  | .empty => stateSize
  | .text word => stateSize * octetsOfText word
  | .one chars => setSize backwards chars
  | .look _ => stateSize
  | .times r least most => timesSize (r.shortest.any (0 < ·)) (r.size backwards) least most
  | .group r => (if backwards then 0 else 2 * stateSize) + r.size backwards
  | .seq items => sizeOfAll backwards items
  | .alt branches =>
    match branches.mapM word? with
    | some words => wordsSize (words.map (octetsRead backwards))
    | none => forkSize branches.length + stateSize + sizeOfAll backwards branches

/-- The size of the states for all of some expressions. -/
def sizeOfAll (backwards : Bool) : List Regex → Nat
  | [] => 0
  | r :: rest => r.size backwards + sizeOfAll backwards rest

end

mutual

/-- Does the expression begin only at a place of this kind? -/
def beginsAt (l : Look) : Regex → Bool
  | .look other => other = l
  | .times r least _ => 0 < least && r.beginsAt l
  | .group r => r.beginsAt l
  | .seq items => beginThroughAt l items
  | .alt branches => beginAllAt l branches
  | _ => false

/-- Does one of the expressions begin only at a place of this kind, and is all before it empty? -/
def beginThroughAt (l : Look) : List Regex → Bool
  | [] => false
  | r :: rest => r.beginsAt l || (r.longest == some 0 && beginThroughAt l rest)

/-- Do all of the expressions begin only at places of this kind? -/
def beginAllAt (l : Look) : List Regex → Bool
  | [] => true
  | r :: rest => r.beginsAt l && beginAllAt l rest

end

mutual

/-- Does the expression end only at a place of this kind? -/
def endsAt (l : Look) : Regex → Bool
  | .look other => other = l
  | .times r least _ => 0 < least && r.endsAt l
  | .group r => r.endsAt l
  | .seq items => (endThroughAt l items).1
  | .alt branches => endAllAt l branches
  | _ => false

/-- Does one of the expressions end only at a place of this kind, and is all behind it empty?  And
are all of them empty? -/
def endThroughAt (l : Look) : List Regex → Bool × Bool
  | [] => (false, true)
  | r :: rest =>
    let behind := endThroughAt l rest
    (behind.1 || (behind.2 && r.endsAt l), behind.2 && r.longest == some 0)

/-- Do all of the expressions end only at places of this kind? -/
def endAllAt (l : Look) : List Regex → Bool
  | [] => true
  | r :: rest => r.endsAt l && endAllAt l rest

end

/-- The size of the machine for an expression.  One that may begin anywhere is found behind any
octets. -/
def machineSize (backwards : Bool) (r : Regex) : Nat :=
  let isFixed := if backwards then r.endsAt .textEnd else r.beginsAt .textStart
  let start := if isFixed then stateSize else forkSize 2 + readSize 1 + stateSize
  start + (Regex.group r).size backwards + stateSize

/-- The largest size of a machine: ten mebibytes. -/
def largestMachine : Nat := 10485760

/-- Is neither machine too large? -/
def fits (r : Regex) : Bool :=
  r.machineSize false ≤ largestMachine && r.machineSize true ≤ largestMachine

end ReplicatedStore.Regex
