import ReplicatedStore.Pattern.Regex.Property
import ReplicatedStore.Pattern.Regex.Syntax
import ReplicatedStore.Text.Property.CaseFolding

/-!
# Classes of characters

What the classes of a regular expression hold under its flags.  Without the flag for Unicode a class
knows ASCII alone, and one that would hold anything else is refused: no negated class and no
character outside of ASCII may stand there.
-/

namespace ReplicatedStore.Regex

open Text (CharSet)

/-- The flags that hold at a place of an expression. -/
structure Flags where
  /-- Letters stand for themselves in either case. -/
  anyCase : Bool
  /-- `^` and `$` hold at every line. -/
  multiLine : Bool
  /-- The dot is also a line feed. -/
  dotAll : Bool
  /-- Classes know all characters, not ASCII alone. -/
  unicode : Bool
  /-- Lines may end in a carriage return. -/
  returns : Bool
  deriving DecidableEq, Repr

namespace Flags

/-- The flags that hold at first. -/
def initial : Flags where
  anyCase := false
  multiLine := false
  dotAll := false
  unicode := true
  returns := false

/-- The flags after changes. -/
def apply (f : Flags) (changes : FlagChanges) : Flags where
  anyCase := (changes.setting? .anyCase).getD f.anyCase
  multiLine := (changes.setting? .multiLine).getD f.multiLine
  dotAll := (changes.setting? .dotAll).getD f.dotAll
  unicode := (changes.setting? .unicode).getD f.unicode
  returns := (changes.setting? .returns).getD f.returns

end Flags

namespace CharClass

/-- Decimal digits of ASCII. -/
def asciiDigit : CharSet := .ofRanges [(0x30, 0x39)]

/-- Letters of ASCII. -/
def asciiAlpha : CharSet := .ofRanges [(0x41, 0x5A), (0x61, 0x7A)]

/-- Letters and digits of ASCII. -/
def asciiAlnum : CharSet := .ofRanges [(0x30, 0x39), (0x41, 0x5A), (0x61, 0x7A)]

/-- White space of ASCII. -/
def asciiSpace : CharSet := .ofRanges [(0x9, 0xD), (0x20, 0x20)]

/-- Letters, digits and the low line of ASCII. -/
def asciiWord : CharSet := .ofRanges [(0x30, 0x39), (0x41, 0x5A), (0x5F, 0x5F), (0x61, 0x7A)]

/-- Visible characters of ASCII. -/
def asciiGraph : CharSet := .ofRanges [(0x21, 0x7E)]

/-- All characters of ASCII. -/
def ascii : CharSet := .ofRanges [(0x0, 0x7F)]

end CharClass

/-- A letter of ASCII in its other case. -/
def otherCase (n : Nat) : Nat :=
  if n < 0x60 then n + 0x20 else n - 0x20

/-- The letters of ASCII that a set holds in their other case. -/
def otherCases (s : CharSet) : CharSet :=
  let letters := List.range' 0x41 26 ++ List.range' 0x61 26
  .ofCodes (letters.filter fun n => s.hasCode (otherCase n))

/-- The set with the other case of its letters. -/
def foldCases (f : Flags) (s : CharSet) : CharSet :=
  if f.anyCase then if f.unicode then Text.Property.foldSet s else s ∪ otherCases s else s

/-- The characters of a class with a name. -/
def NamedClass.chars : NamedClass → CharSet
  | .alnum => CharClass.asciiAlnum
  | .alpha => CharClass.asciiAlpha
  | .ascii => CharClass.ascii
  | .blank => .ofRanges [(0x9, 0x9), (0x20, 0x20)]
  | .cntrl => .ofRanges [(0x0, 0x1F), (0x7F, 0x7F)]
  | .digit => CharClass.asciiDigit
  | .graph => CharClass.asciiGraph
  | .lower => .ofRanges [(0x61, 0x7A)]
  | .print => .ofRanges [(0x20, 0x7E)]
  | .punct => CharClass.asciiGraph \ CharClass.asciiAlnum
  | .space => CharClass.asciiSpace
  | .upper => .ofRanges [(0x41, 0x5A)]
  | .word => CharClass.asciiWord
  | .xdigit => Text.Property.asciiHexDigits

/-- The characters of a class with a letter. -/
def LetterClass.chars (unicode : Bool) : LetterClass → CharSet
  | .digit => if unicode then Text.Property.decimalDigits else CharClass.asciiDigit
  | .space => if unicode then Text.Property.whiteSpace else CharClass.asciiSpace
  | .word => if unicode then Text.Property.wordChars else CharClass.asciiWord

/-- The characters that the set does not hold, which without Unicode are none that may be asked
for. -/
def negate? (f : Flags) (negated : Bool) (s : CharSet) : Option CharSet :=
  if negated then if f.unicode then some s.complement else none else some s

/-- The characters of a class with a letter, or all others. -/
def LetterClass.toSet? (f : Flags) (negated : Bool) (kind : LetterClass) : Option CharSet :=
  negate? f negated (kind.chars f.unicode)

/-- The characters with a property, or all others, which only Unicode has. -/
def PropertyName.toSet? (f : Flags) (negated : Bool) (name : PropertyName) : Option CharSet :=
  if f.unicode then do negate? f negated (foldCases f (← name.chars?)) else none

/-- May the character stand in a class? -/
def Literal.inClass? (f : Flags) (l : Literal) : Option Char :=
  if f.unicode || l.char.toNat < 0x80 then some l.char else none

/-- Two classes put together. -/
def ClassOp.apply (left right : CharSet) : ClassOp → CharSet
  | .intersection => left ∩ right
  | .difference => left \ right
  | .symmetricDifference => left.symmDiff right

mutual

/-- The characters that stand between brackets. -/
def ClassSet.toSet? (f : Flags) : ClassSet → Option CharSet
  | .one l => (l.inClass? f).map .single
  | .range low high => do
    let first ← low.inClass? f
    let last ← high.inClass? f
    return .between first last
  | .named negated kind => negate? f negated (foldCases f kind.chars)
  | .letter negated kind => kind.toSet? f negated
  | .property negated name => name.toSet? f negated
  | .bracketed negated inner => do negate? f negated (foldCases f (← inner.toSet? f))
  | .union parts => anyOf? f parts
  | .op kind left right => do
    let first ← left.toSet? f
    let second ← right.toSet? f
    return kind.apply (foldCases f first) (foldCases f second)

/-- The characters that any of the classes holds. -/
def ClassSet.anyOf? (f : Flags) : List ClassSet → Option CharSet
  | [] => some .none
  | part :: rest => do
    let first ← part.toSet? f
    let others ← anyOf? f rest
    return first ∪ others

end

end ReplicatedStore.Regex
