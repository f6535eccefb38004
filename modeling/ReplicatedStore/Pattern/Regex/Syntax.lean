/-!
# The parts of a written regular expression

How an expression is put together, before its flags are applied.
-/

namespace ReplicatedStore.Regex

/-! ## Flags -/

/-- What a flag changes. -/
inductive Flag where
  /-- Letters stand for themselves in either case. -/
  | anyCase
  /-- `^` and `$` hold at every line. -/
  | multiLine
  /-- The dot is also a line feed. -/
  | dotAll
  /-- Repetitions prefer few rounds. -/
  | swapGreed
  /-- Classes know all characters, not ASCII alone. -/
  | unicode
  /-- Lines may end in a carriage return. -/
  | returns
  /-- White space in the expression says nothing. -/
  | verbose
  deriving DecidableEq, Repr

/-- Flags that are turned on or off. -/
abbrev FlagChanges := List (Flag × Bool)

/-- What the changes do to a flag, if they name it. -/
def FlagChanges.setting? (changes : FlagChanges) (flag : Flag) : Option Bool :=
  (List.find? (fun change => change.1 = flag) changes).map Prod.snd

/-! ## Classes -/

/-- A character as it is written. -/
structure Literal where
  /-- The character. -/
  char : Char
  /-- Is it written as one octet of two digits? -/
  isOctet : Bool
  deriving DecidableEq, Repr

/-- The classes with a letter of their own. -/
inductive LetterClass where
  /-- Decimal digits. -/
  | digit
  /-- White space. -/
  | space
  /-- Characters of words. -/
  | word
  deriving DecidableEq, Repr

/-- The name of a property, as it is written. -/
inductive PropertyName where
  /-- One name for all: of a property, a general category or a script. -/
  | plain (name : String)
  /-- The value of a property that has several. -/
  | valued (property value : String)
  deriving DecidableEq, Repr

/-- The classes of ASCII characters with a name. -/
inductive NamedClass where
  /-- Letters and digits. -/
  | alnum
  /-- Letters. -/
  | alpha
  /-- All of ASCII. -/
  | ascii
  /-- Blank and tab. -/
  | blank
  /-- Controls. -/
  | cntrl
  /-- Digits. -/
  | digit
  /-- Visible characters. -/
  | graph
  /-- Small letters. -/
  | lower
  /-- Visible characters and the blank. -/
  | print
  /-- Visible characters that are neither letters nor digits. -/
  | punct
  /-- White space. -/
  | space
  /-- Capital letters. -/
  | upper
  /-- Characters of words. -/
  | word
  /-- Digits in base sixteen. -/
  | xdigit
  deriving DecidableEq, Repr

/-- How two classes are put together. -/
inductive ClassOp where
  /-- What both hold. -/
  | intersection
  /-- What only the first holds. -/
  | difference
  /-- What exactly one holds. -/
  | symmetricDifference
  deriving DecidableEq, Repr

/-- What stands between brackets. -/
inductive ClassSet where
  /-- One character. -/
  | one (literal : Literal)
  /-- All characters from the first to the last. -/
  | range (low high : Literal)
  /-- A class with a name. -/
  | named (negated : Bool) (kind : NamedClass)
  /-- A class with a letter. -/
  | letter (negated : Bool) (kind : LetterClass)
  /-- The characters with a property. -/
  | property (negated : Bool) (name : PropertyName)
  /-- A class in brackets of its own. -/
  | bracketed (negated : Bool) (inner : ClassSet)
  /-- What any part holds. -/
  | union (parts : List ClassSet)
  /-- Two classes put together. -/
  | op (kind : ClassOp) (left right : ClassSet)

/-! ## Expressions -/

/-- What is asked of a place. -/
inductive Assertion where
  /-- The start of the text, or of a line with the flag. -/
  | start
  /-- The end of the text, or of a line with the flag. -/
  | stop
  /-- The start of the text. -/
  | textStart
  /-- The end of the text. -/
  | textEnd
  /-- The start or end of a word. -/
  | wordBoundary
  /-- Neither. -/
  | notWordBoundary
  /-- The start of a word. -/
  | wordStart
  /-- The end of a word. -/
  | wordEnd
  /-- No character of a word before. -/
  | wordStartHalf
  /-- No character of a word after. -/
  | wordEndHalf
  deriving DecidableEq, Repr

/-- A written regular expression. -/
inductive Written where
  /-- Flags for what follows in the group. -/
  | flags (changes : FlagChanges)
  /-- A character. -/
  | literal (literal : Literal)
  /-- Any character. -/
  | dot
  /-- A place. -/
  | assertion (a : Assertion)
  /-- A class with a letter. -/
  | letter (negated : Bool) (kind : LetterClass)
  /-- The characters with a property. -/
  | property (negated : Bool) (name : PropertyName)
  /-- A class in brackets. -/
  | bracketed (negated : Bool) (set : ClassSet)
  /-- An expression several times. -/
  | times (inner : Written) (least : Nat) (most : Option Nat)
  /-- A group, with flags that hold inside it; its place in the text may be noted. -/
  | group (isNoted : Bool) (changes : FlagChanges) (inner : Written)
  /-- Expressions one after the other. -/
  | concat (items : List Written)
  /-- Any of several expressions. -/
  | alternation (branches : List Written)

/-- The expressions one after the other; a single one is not wrapped. -/
def Written.ofItems : List Written → Written
  | [item] => item
  | items => .concat items

/-- Any of the expressions; a single one is not wrapped. -/
def Written.ofBranches : List Written → Written
  | [branch] => branch
  | branches => .alternation branches

/-- The union of the parts; a single one is not wrapped. -/
def ClassSet.ofParts : List ClassSet → ClassSet
  | [part] => part
  | parts => .union parts

/-! ## Nesting -/

mutual

/-- How deep the class is nested. -/
def ClassSet.depth : ClassSet → Nat
  | .one _ => 0
  | .range _ _ => 0
  | .named _ _ => 0
  | .letter _ _ => 0
  | .property _ _ => 0
  | .bracketed _ inner => inner.depth + 1
  | .union parts => if parts.isEmpty then 0 else depthAny parts + 1
  | .op _ left right => max left.depth right.depth + 1

/-- How deep the deepest of the classes is nested. -/
def ClassSet.depthAny : List ClassSet → Nat
  | [] => 0
  | part :: rest => max part.depth (depthAny rest)

end

mutual

/-- How deep the expression is nested. -/
def Written.depth : Written → Nat
  | .flags _ => 0
  | .literal _ => 0
  | .dot => 0
  | .assertion _ => 0
  | .letter _ _ => 0
  | .property _ _ => 0
  | .bracketed _ set => set.depth + 1
  | .times inner _ _ => inner.depth + 1
  | .group _ _ inner => inner.depth + 1
  | .concat items => if items.isEmpty then 0 else depthAny items + 1
  | .alternation branches => depthAny branches + 1

/-- How deep the deepest of the expressions is nested. -/
def Written.depthAny : List Written → Nat
  | [] => 0
  | item :: rest => max item.depth (depthAny rest)

end

/-- How deep an expression may be nested. -/
def deepestNesting : Nat := 250

end ReplicatedStore.Regex
