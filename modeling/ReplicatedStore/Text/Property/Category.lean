/-!
# General categories

Unicode puts every character into one category, known by two letters: the first for a large class
such as letters, the second for a part of it.
-/

namespace ReplicatedStore.Text

/-- The general category of a character. -/
inductive Category where
  /-- A capital letter. -/
  | lu
  /-- A small letter. -/
  | ll
  /-- A letter pair of which the first is capital. -/
  | lt
  /-- A letter that modifies others. -/
  | lm
  /-- Any other letter. -/
  | lo
  /-- A mark that takes no space. -/
  | mn
  /-- A mark that takes space. -/
  | mc
  /-- A mark that encloses. -/
  | me
  /-- A decimal digit. -/
  | nd
  /-- A letter that is a number. -/
  | nl
  /-- Any other number. -/
  | no
  /-- A mark that connects. -/
  | pc
  /-- A dash. -/
  | pd
  /-- A mark that opens. -/
  | ps
  /-- A mark that closes. -/
  | pe
  /-- A mark that opens a quotation. -/
  | pi
  /-- A mark that closes a quotation. -/
  | pf
  /-- Any other punctuation. -/
  | po
  /-- A symbol of mathematics. -/
  | sm
  /-- A currency sign. -/
  | sc
  /-- A symbol that modifies others. -/
  | sk
  /-- Any other symbol. -/
  | so
  /-- A space. -/
  | zs
  /-- A line separator. -/
  | zl
  /-- A paragraph separator. -/
  | zp
  /-- A control. -/
  | cc
  /-- A character that formats. -/
  | cf
  /-- A character for private use. -/
  | co
  /-- No character yet. -/
  | cn
  deriving DecidableEq, Repr

namespace Category

/-- Is it a letter that has a case? -/
def isCasedLetter : Category → Bool
  | lu | ll | lt => true
  | _ => false

/-- Is it a letter? -/
def isLetter : Category → Bool
  | lu | ll | lt | lm | lo => true
  | _ => false

/-- Is it a mark? -/
def isMark : Category → Bool
  | mn | mc | me => true
  | _ => false

/-- Is it a number? -/
def isNumber : Category → Bool
  | nd | nl | no => true
  | _ => false

/-- Is it punctuation? -/
def isPunctuation : Category → Bool
  | pc | pd | ps | pe | pi | pf | po => true
  | _ => false

/-- Is it a symbol? -/
def isSymbol : Category → Bool
  | sm | sc | sk | so => true
  | _ => false

/-- Is it a separator? -/
def isSeparator : Category → Bool
  | zs | zl | zp => true
  | _ => false

/-- Is it none of the other large classes? -/
def isOther : Category → Bool
  | cc | cf | co | cn => true
  | _ => false

end Category

end ReplicatedStore.Text
