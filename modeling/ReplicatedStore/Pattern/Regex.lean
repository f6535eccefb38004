import ReplicatedStore.Text.CharSet

/-!
# Regular expressions

A regular expression is held against a text from every place at once: `Regex.reach` turns the places
at which an expression may start into those at which it may end.  An expression matches a text when
it ends anywhere (`Regex.isMatch`).
-/

namespace ReplicatedStore

open Text (CharSet)

namespace Regex

/-- What is asked of the characters before and after a place. -/
inductive WordEdge where
  /-- Exactly one of them belongs to a word. -/
  | boundary
  /-- Both belong to a word, or none does. -/
  | noBoundary
  /-- Only the one after it belongs to a word. -/
  | start
  /-- Only the one before it belongs to a word. -/
  | stop
  /-- The one before it does not belong to a word. -/
  | startHalf
  /-- The one after it does not belong to a word. -/
  | stopHalf
  deriving DecidableEq, Repr

/-- Does the edge stand between two places, which belong to words as the answers say? -/
def WordEdge.holds (before after : Bool) : WordEdge → Bool
  | .boundary => before != after
  | .noBoundary => before == after
  | .start => !before && after
  | .stop => before && !after
  | .startHalf => !before
  | .stopHalf => !after

/-- What is asked of a place in a text. -/
inductive Look where
  /-- Nothing comes before it. -/
  | textStart
  /-- Nothing comes after it. -/
  | textEnd
  /-- A line starts there; lines end in a line feed or, with `returns`, also in a carriage return or
  in both. -/
  | lineStart (returns : Bool)
  /-- A line ends there. -/
  | lineEnd (returns : Bool)
  /-- An edge of words, which are made of the given characters. -/
  | word (chars : CharSet) (edge : WordEdge)
  deriving DecidableEq, Repr

/-- Does the place have what is asked of it? -/
def Look.holds (text : List Char) (place : Nat) : Look → Bool
  | .textStart => place == 0
  | .textEnd => text[place]?.isNone
  | .lineStart returns =>
    let before := if place = 0 then none else text[place - 1]?
    before.isNone || before == some '\n' ||
      (returns && before == some '\r' && text[place]? != some '\n')
  | .lineEnd returns =>
    let before := if place = 0 then none else text[place - 1]?
    let after := text[place]?
    if returns then
      after.isNone || after == some '\r' || (after == some '\n' && before != some '\r')
    else after.isNone || after == some '\n'
  | .word chars edge =>
    let before := if place = 0 then none else text[place - 1]?
    edge.holds (before.any chars.has) (text[place]?.any chars.has)

end Regex

/-- A regular expression. -/
inductive Regex where
  /-- The empty text. -/
  | empty
  /-- A text that stands for itself. -/
  | text (word : List Char)
  /-- One character of a set. -/
  | one (chars : CharSet)
  /-- The empty text at a place of a certain kind. -/
  | look (l : Regex.Look)
  /-- An expression several times, at least `least` and at most `most` times. -/
  | times (r : Regex) (least : Nat) (most : Option Nat)
  /-- An expression whose place in the text is noted. -/
  | group (r : Regex)
  /-- Expressions one after the other. -/
  | seq (items : List Regex)
  /-- Any of several expressions. -/
  | alt (branches : List Regex)

namespace Regex

/-- The places in a list up to `p`, then `p` itself, and behind it what `next` finds. -/
def uniteThrough (p : Nat) (next : List Nat → List Nat) : List Nat → List Nat
  | [] => p :: next []
  | q :: qs =>
    if p < q then p :: next (q :: qs)
    else if q < p then q :: uniteThrough p next qs
    else p :: next qs

/-- The places in either list; both are in ascending order. -/
def unite : List Nat → List Nat → List Nat
  | [], qs => qs
  | p :: ps, qs => uniteThrough p (unite ps) qs

/-- Takes a step so many times, or until it leads to nothing new. -/
def stepTimes (step : List Nat → List Nat) : Nat → List Nat → List Nat
  | 0, ps => ps
  | n + 1, ps => if step ps = ps then ps else stepTimes step n (step ps)

/-- Takes a step at most so many times, and keeps every place on the way. -/
def stepUpTo (step : List Nat → List Nat) : Nat → List Nat → List Nat
  | 0, ps => ps
  | n + 1, ps => if unite ps (step ps) = ps then ps else stepUpTo step n (unite ps (step ps))

mutual

/-- The places at which the expression ends when it starts at one of the given places. -/
def reach (text : List Char) : Regex → List Nat → List Nat
  | .empty, ps => ps
  | .text word, ps =>
    (ps.filter fun p => word.isPrefixOf (text.drop p)).map (· + word.length)
  | .one chars, ps => (ps.filter fun p => text[p]?.any chars.has).map (· + 1)
  | .look l, ps => ps.filter fun p => l.holds text p
  | .times r least most, ps =>
    let started := stepTimes (reach text r) least ps
    match most with
    | some most => stepUpTo (reach text r) (most - least) started
    | none => stepUpTo (reach text r) (text.length + 1) started
  | .group r, ps => reach text r ps
  | .seq items, ps => reachThrough text items ps
  | .alt branches, ps => reachAny text branches ps

/-- The places at which the last expression ends when each starts where the one before it ends. -/
def reachThrough (text : List Char) : List Regex → List Nat → List Nat
  | [], ps => ps
  | r :: rest, ps => reachThrough text rest (reach text r ps)

/-- The places at which any of the expressions ends. -/
def reachAny (text : List Char) : List Regex → List Nat → List Nat
  | [], _ => []
  | r :: rest, ps => unite (reach text r ps) (reachAny text rest ps)

end

/-- Does the expression match the text, or a part of it? -/
def isMatch (r : Regex) (text : List Char) : Bool :=
  !(reach text r (List.range (text.length + 1))).isEmpty

end Regex

end ReplicatedStore
