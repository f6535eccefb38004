import ReplicatedStore.Text.Hexadecimal

/-!
# Sets of characters

A set of characters is kept as the code points at which it turns, in ascending order: those before
the first turn are outside, those from there up to the next turn are inside, and so on.  Two sets
are put together in one walk along the turns of both.  No set holds code points of surrogates, which
are no characters.
-/

namespace ReplicatedStore.Text

/-- A set of characters. -/
structure CharSet where
  /-- The code points at which the set begins or ends, in ascending order. -/
  turns : List Nat
  deriving DecidableEq, Repr

namespace CharSet

/-- Is the code point inside, when those before all turns are inside as `inside` says? -/
def isInside (inside : Bool) (n : Nat) : List Nat → Bool
  | [] => inside
  | turn :: rest => if n < turn then inside else isInside (!inside) n rest

/-- Is the code point in the set? -/
def hasCode (s : CharSet) (n : Nat) : Bool :=
  isInside false n s.turns

/-- Is the character in the set? -/
def has (s : CharSet) (c : Char) : Bool :=
  s.hasCode c.toNat

/-! ## Sets and ranges -/

/-- Puts a range before turns that come after it; one that ends where they begin is continued. -/
def consRange (range : Nat × Nat) : List Nat → List Nat
  | [] => [range.1, range.2 + 1]
  | next :: rest =>
    if next = range.2 + 1 then range.1 :: rest else range.1 :: (range.2 + 1) :: next :: rest

/-- The code points of ranges, each from its first to its last, in ascending order. -/
def ofRanges (ranges : List (Nat × Nat)) : CharSet :=
  ⟨ranges.foldr consRange []⟩

/-- Code points in ascending order. -/
def ofCodes (ns : List Nat) : CharSet :=
  ofRanges (ns.map fun n => (n, n))

/-- The code points of a table of ranges in ascending order. -/
def ofTable (ranges : Array (Nat × Nat)) : CharSet :=
  ofRanges ranges.toList

/-- The ranges between turns, each from its first to its last code point. -/
def rangesBetween : List Nat → List (Nat × Nat)
  | first :: stop :: rest => (first, stop - 1) :: rangesBetween rest
  | _ => []

/-- The ranges of the set, each from its first to its last code point. -/
def ranges (s : CharSet) : List (Nat × Nat) :=
  rangesBetween s.turns

/-- No character. -/
def none : CharSet := ⟨[]⟩

/-- All characters. -/
def all : CharSet := ofRanges [(0, 0xD7FF), (0xE000, 0x10FFFF)]

/-- One character. -/
def single (c : Char) : CharSet := ofCodes [c.toNat]

/-- The only character of the set, if there is just one. -/
def single? (s : CharSet) : Option Char :=
  match s.turns with
  | [first, stop] => if stop = first + 1 then charOf? first else Option.none
  | _ => Option.none

/-- Are all its characters among the first `count` code points? -/
def isBelow (count : Nat) (s : CharSet) : Bool :=
  s.turns.all fun turn => turn ≤ count

/-! ## Sets put together -/

/-- Puts a turn where two answers differ. -/
def turnAt (n : Nat) (before after : Bool) (rest : List Nat) : List Nat :=
  if before = after then rest else n :: rest

/-- The turns of `f` along one set, when the other one holds the places throughout if `a`. -/
def turnsBeside (f : Bool → Bool → Bool) (a b : Bool) : List Nat → List Nat
  | [] => []
  | t :: rest => turnAt t (f a b) (f a !b) (turnsBeside f a (!b) rest)

/-- The turns of `f` up to the turn `s` of the first set, and behind it those that `next` finds;
`a` and `b` tell whether the place that is reached is in either set. -/
def turnsThrough (f : Bool → Bool → Bool) (s : Nat) (next : Bool → List Nat → List Nat)
    (a b : Bool) : List Nat → List Nat
  | [] => turnAt s (f a b) (f (!a) b) (next b [])
  | t :: rest =>
    if t < s then turnAt t (f a b) (f a !b) (turnsThrough f s next a (!b) rest)
    else if s < t then turnAt s (f a b) (f (!a) b) (next b (t :: rest))
    else turnAt s (f a b) (f (!a) !b) (next (!b) rest)

/-- The turns of `f` along two sets. -/
def turnsAlong (f : Bool → Bool → Bool) (a : Bool) : List Nat → Bool → List Nat → List Nat
  | [], b, ts => turnsBeside f a b ts
  | s :: rest, b, ts => turnsThrough f s (turnsAlong f (!a) rest) a b ts

/-- The characters for which `f` says so of their being in either set; it must refuse those that are
in neither. -/
def combine (f : Bool → Bool → Bool) (s t : CharSet) : CharSet :=
  ⟨turnsAlong f false s.turns false t.turns⟩

instance : Union CharSet where
  union := combine fun a b => a || b

instance : Inter CharSet where
  inter := combine fun a b => a && b

instance : SDiff CharSet where
  sdiff := combine fun a b => a && !b

/-- The characters in exactly one of two sets. -/
def symmDiff (s t : CharSet) : CharSet :=
  combine (fun a b => a != b) s t

/-- All characters that are not in the set. -/
def complement (s : CharSet) : CharSet :=
  all \ s

/-- All characters from the first to the last. -/
def between (first last : Char) : CharSet :=
  ofRanges [(first.toNat, last.toNat)] ∩ all

/-- The characters of a list. -/
def ofChars (cs : List Char) : CharSet :=
  cs.foldl (fun s c => s ∪ single c) none

end CharSet

end ReplicatedStore.Text
