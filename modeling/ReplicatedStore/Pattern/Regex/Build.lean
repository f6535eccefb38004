import ReplicatedStore.Pattern.Regex

/-!
# Plain forms of regular expressions

Expressions are put together in a plain form: texts side by side are one text, a sequence holds no
sequence and a choice no choice, a choice between characters is a set of characters, what all
branches of a choice begin with stands before it, and nothing is repeated that is always empty.  A
plain form matches what it was put together from, and it is by its plain form that an expression is
measured.
-/

namespace ReplicatedStore.Regex

open Text (CharSet)

/-! ## Lengths -/

/-- How many octets a code point takes in UTF-8. -/
def octetsOfCodePoint (n : Nat) : Nat :=
  if n < 0x80 then 1 else if n < 0x800 then 2 else if n < 0x10000 then 3 else 4

/-- How many octets a text takes in UTF-8. -/
def octetsOfText (word : List Char) : Nat :=
  word.foldl (fun count c => count + octetsOfCodePoint c.toNat) 0

/-- The smaller of two lengths; a branch without a length leaves none. -/
def shorter? (a b : Option Nat) : Option Nat := do
  return min (← a) (← b)

/-- The larger of two lengths; a branch without a length leaves none. -/
def longer? (a b : Option Nat) : Option Nat := do
  return max (← a) (← b)

mutual

/-- The fewest octets that the expression matches, if it matches anything. -/
def shortest : Regex → Option Nat
  | .empty => some 0
  | .text word => some (octetsOfText word)
  | .one chars => chars.turns.head?.map octetsOfCodePoint
  | .look _ => some 0
  | .times r least _ => r.shortest.map (· * least)
  | .group r => r.shortest
  | .seq items => shortestThrough items
  | .alt branches => shortestAny branches

/-- The fewest octets that the expressions match one after the other. -/
def shortestThrough : List Regex → Option Nat
  | [] => some 0
  | r :: rest => do return (← r.shortest) + (← shortestThrough rest)

/-- The fewest octets that any of the expressions matches. -/
def shortestAny : List Regex → Option Nat
  | [] => none
  | [r] => r.shortest
  | r :: rest => shorter? r.shortest (shortestAny rest)

end

mutual

/-- The most octets that the expression matches, if there is an end to them. -/
def longest : Regex → Option Nat
  | .empty => some 0
  | .text word => some (octetsOfText word)
  | .one chars => chars.turns.getLast?.map fun stop => octetsOfCodePoint (stop - 1)
  | .look _ => some 0
  | .times r _ most => do return (← r.longest) * (← most)
  | .group r => r.longest
  | .seq items => longestThrough items
  | .alt branches => longestAny branches

/-- The most octets that the expressions match one after the other. -/
def longestThrough : List Regex → Option Nat
  | [] => some 0
  | r :: rest => do return (← r.longest) + (← longestThrough rest)

/-- The most octets that any of the expressions matches. -/
def longestAny : List Regex → Option Nat
  | [] => none
  | [r] => r.longest
  | r :: rest => longer? r.longest (longestAny rest)

end

/-! ## Comparison -/

mutual

/-- Are the expressions the same?  No group is the same as another one. -/
def isSame : Regex → Regex → Bool
  | .empty, .empty => true
  | .text word, .text other => word = other
  | .one chars, .one others => chars = others
  | .look l, .look other => l = other
  | .times r least most, .times other fewest greatest =>
    least = fewest && most = greatest && r.isSame other
  | .seq items, .seq others => isEachSame items others
  | .alt branches, .alt others => isEachSame branches others
  | _, _ => false

/-- Are the expressions the same one by one? -/
def isEachSame : List Regex → List Regex → Bool
  | [], [] => true
  | r :: rest, other :: others => r.isSame other && isEachSame rest others
  | _, _ => false

end

/-! ## Characters -/

/-- One character of a set; the only character of a set stands for itself. -/
def ofSet (chars : CharSet) : Regex :=
  match chars.single? with
  | some c => .text [c]
  | none => .one chars

/-! ## Repetitions -/

/-- An expression several times.  What is always empty is not repeated more than once. -/
def repeated (r : Regex) (least : Nat) (most : Option Nat) : Regex :=
  let isEmpty := r.longest == some 0
  let least := if isEmpty then min least 1 else least
  let most := if isEmpty then some (min (most.getD 1) 1) else most
  if least = 0 ∧ most = some 0 then .empty
  else if least = 1 ∧ most = some 1 then r
  else .times r least most

/-! ## Sequences -/

/-- The items that an expression is a sequence of. -/
def items : Regex → List Regex
  | .empty => []
  | .seq items => items
  | r => [r]

/-- Puts an item before a sequence; texts side by side become one. -/
def consItem (r : Regex) (rest : List Regex) : List Regex :=
  match r, rest with
  | .text word, .text more :: rest => .text (word ++ more) :: rest
  | r, rest => r :: rest

/-- The expression of items in a row. -/
def ofItems : List Regex → Regex
  | [] => .empty
  | [r] => r
  | items => .seq items

/-- Expressions one after the other. -/
def sequence (rs : List Regex) : Regex :=
  ofItems ((rs.flatMap items).foldr consItem [])

/-! ## Choices -/

/-- The branches that an expression chooses between. -/
def branches : Regex → List Regex
  | .alt branches => branches
  | r => [r]

/-- The only character of a text. -/
def char? : Regex → Option Char
  | .text [c] => some c
  | _ => none

/-- The characters of which an expression is one. -/
def set? : Regex → Option CharSet
  | .one chars => some chars
  | _ => none

/-- The items of a sequence. -/
def sequence? : Regex → Option (List Regex)
  | .seq items => some items
  | _ => none

/-- The items with which two sequences begin. -/
def commonItems : List Regex → List Regex → List Regex
  | r :: rest, other :: others => if r.isSame other then r :: commonItems rest others else []
  | _, _ => []

/-- The items with which all sequences begin. -/
def itemsOfAll : List (List Regex) → List Regex
  | [] => []
  | first :: others => others.foldl commonItems first

mutual

/-- How often a choice occurs in the expression, one inside of the other. -/
def choiceDepth : Regex → Nat
  | .times r _ _ => r.choiceDepth
  | .group r => r.choiceDepth
  | .seq items => choiceDepthAny items
  | .alt branches => choiceDepthAny branches + 1
  | _ => 0

/-- How often a choice occurs in any of the expressions. -/
def choiceDepthAny : List Regex → Nat
  | [] => 0
  | r :: rest => max r.choiceDepth (choiceDepthAny rest)

end

/-- Any of several branches.  What all begin with is moved before the choice, which may be done once
more for every choice inside of them. -/
def choiceWithin : Nat → List Regex → Regex
  | budget, rs =>
    match rs.flatMap branches with
    | [] => .one .none
    | [r] => r
    | all =>
      match all.mapM char?, all.mapM set?, all.mapM sequence?, budget with
      | some cs, _, _, _ => ofSet (.ofChars cs)
      | none, some sets, _, _ => ofSet (sets.foldl (· ∪ ·) .none)
      | none, none, some lists, budget + 1 =>
        match itemsOfAll lists with
        | [] => .alt all
        | shared =>
          let endings := lists.map fun items => sequence (items.drop shared.length)
          sequence (shared ++ [choiceWithin budget endings])
      | none, none, _, _ => .alt all

/-- Any of several expressions. -/
def choice (rs : List Regex) : Regex :=
  choiceWithin (choiceDepthAny rs + 1) rs

end ReplicatedStore.Regex
