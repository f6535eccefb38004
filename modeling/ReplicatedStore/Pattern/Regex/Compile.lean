import ReplicatedStore.Pattern.Regex.Class
import ReplicatedStore.Pattern.Regex.Parser
import ReplicatedStore.Pattern.Regex.Size

/-!
# Regular expressions from their text

Flags hold from where they stand to the end of their group, over the bars of that group as well.
`Regex.ofText?` reads a text and applies them; it refuses an expression that is too large.
-/

namespace ReplicatedStore.Regex

open Text (CharSet)

/-- What an assertion asks of a place under the flags. -/
def Assertion.toLook (f : Flags) (a : Assertion) : Look :=
  let word := Look.word (LetterClass.chars f.unicode .word)
  match a with
  | .start => if f.multiLine then .lineStart f.returns else .textStart
  | .stop => if f.multiLine then .lineEnd f.returns else .textEnd
  | .textStart => .textStart
  | .textEnd => .textEnd
  | .wordBoundary => word .boundary
  | .notWordBoundary => word .noBoundary
  | .wordStart => word .start
  | .wordEnd => word .stop
  | .wordStartHalf => word .startHalf
  | .wordEndHalf => word .stopHalf

/-- The expression for one character.  Without Unicode an octet outside of ASCII is no character. -/
def Literal.toRegex? (f : Flags) (l : Literal) : Option Regex :=
  if !f.unicode && l.isOctet && 0x80 ≤ l.char.toNat then none
  else some (ofSet (foldCases f (.single l.char)))

/-- The expression for the dot, which needs Unicode. -/
def dot? (f : Flags) : Option Regex :=
  if !f.unicode then none
  else if f.dotAll then some (.one .all)
  else if f.returns then some (.one (CharSet.ofChars ['\n', '\r']).complement)
  else some (.one (CharSet.single '\n').complement)

mutual

/-- The expression under the flags, and the flags after it. -/
def Written.toRegex? (f : Flags) : Written → Option (Regex × Flags)
  | .flags changes => some (.empty, f.apply changes)
  | .literal l => (l.toRegex? f).map (·, f)
  | .dot => (dot? f).map (·, f)
  | .assertion a => some (.look (a.toLook f), f)
  | .letter negated kind => (kind.toSet? f negated).map fun s => (ofSet s, f)
  | .property negated name => (name.toSet? f negated).map fun s => (ofSet s, f)
  | .bracketed negated set => do
    let s ← negate? f negated (foldCases f (← set.toSet? f))
    return (ofSet s, f)
  | .times inner least most => do
    let (r, after) ← inner.toRegex? f
    return (repeated r least most, after)
  | .group isNoted changes inner => do
    let (r, _) ← inner.toRegex? (f.apply changes)
    return (if isNoted then .group r else r, f)
  | .concat items => do
    let (rs, after) ← eachToRegex? f items
    return (sequence rs, after)
  | .alternation branches => do
    let (rs, after) ← eachToRegex? f branches
    return (choice rs, after)

/-- The expressions, each under the flags that the one before it leaves. -/
def Written.eachToRegex? (f : Flags) : List Written → Option (List Regex × Flags)
  | [] => some ([], f)
  | item :: rest => do
    let (r, between) ← item.toRegex? f
    let (rs, after) ← eachToRegex? between rest
    return (r :: rs, after)

end

/-- The expression that a text denotes. -/
def ofText? (text : String) : Option Regex := do
  let written ← Written.parse text.toList
  let (r, _) ← written.toRegex? Flags.initial
  if r.fits then some r else none

end ReplicatedStore.Regex
