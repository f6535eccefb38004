import ReplicatedStore.Text.Hexadecimal

/-!
# Quoted strings of configuration texts

A string stands in double quotes, where a backslash starts an escape, or in single quotes, where
every character stands for itself.  Three quotes instead of one open a string that may hold line
breaks; a line break straight behind them is not part of it, and every other one counts as a line
feed.

All functions read from the characters behind the opening quotes and answer what the string says and
the characters behind its closing quotes.
-/

namespace ReplicatedStore.Toml

/-- May the character stand in a text at all, apart from line breaks?  Of the control characters of
ASCII only the tab may. -/
def isPlain (c : Char) : Bool :=
  c == '\t' || (0x20 ≤ c.toNat && c.toNat != 0x7F)

/-- The character that a letter stands for behind a backslash. -/
def escaped? (c : Char) : Option Char :=
  if c = 'b' then some '\x08'
  else if c = 't' then some '\t'
  else if c = 'n' then some '\n'
  else if c = 'f' then some '\x0C'
  else if c = 'r' then some '\r'
  else if c = '"' then some '"'
  else if c = '\\' then some '\\'
  else none

/-- The character of a code point that is written in base sixteen. -/
def codePoint? (digits : List Char) : Option Char :=
  (Text.hexNumber? digits).bind Text.charOf?

/-- Puts a character, if there is one, in front of what is read behind it. -/
def prepend (c : Option Char) (read : Option (List Char × List Char)) :
    Option (List Char × List Char) :=
  match c, read with
  | some c, some (cs, rest) => some (c :: cs, rest)
  | _, _ => none

/-- Reads a string in double quotes. -/
def quoted : List Char → Option (List Char × List Char)
  | [] => none
  | '"' :: rest => some ([], rest)
  | '\\' :: 'u' :: a :: b :: c :: d :: rest => prepend (codePoint? [a, b, c, d]) (quoted rest)
  | '\\' :: 'U' :: a :: b :: c :: d :: e :: f :: g :: h :: rest =>
    prepend (codePoint? [a, b, c, d, e, f, g, h]) (quoted rest)
  | '\\' :: c :: rest => prepend (escaped? c) (quoted rest)
  | c :: rest => if isPlain c then prepend (some c) (quoted rest) else none

/-- Reads a string in single quotes. -/
def literal : List Char → Option (List Char × List Char)
  | [] => none
  | '\'' :: rest => some ([], rest)
  | c :: rest => if isPlain c then prepend (some c) (literal rest) else none

/-- What a string in three double quotes goes on with. -/
inductive Fold where
  /-- Any characters. -/
  | none
  /-- White space up to the end of the line, behind a backslash. -/
  | toLineEnd
  /-- White space and line breaks, which are left out. -/
  | blank
  deriving DecidableEq, Repr

/-- Is the character one of the two blanks? -/
def isSpace (c : Char) : Bool :=
  c == ' ' || c == '\t'

/-- Reads a string in three double quotes.  One or two more quotes in front of the closing ones
belong to the string.  A backslash at the end of a line leaves out that line break and all white
space behind it. -/
def quotedLines : Fold → List Char → Option (List Char × List Char)
  | _, [] => none
  | .toLineEnd, '\n' :: rest => quotedLines .blank rest
  | .toLineEnd, '\r' :: '\n' :: rest => quotedLines .blank rest
  | .toLineEnd, c :: rest => if isSpace c then quotedLines .toLineEnd rest else none
  | .blank, '\n' :: rest => quotedLines .blank rest
  | .blank, '\r' :: '\n' :: rest => quotedLines .blank rest
  | _, '"' :: '"' :: '"' :: '"' :: '"' :: rest => some (['"', '"'], rest)
  | _, '"' :: '"' :: '"' :: '"' :: rest => some (['"'], rest)
  | _, '"' :: '"' :: '"' :: rest => some ([], rest)
  | _, '"' :: rest => prepend (some '"') (quotedLines .none rest)
  | _, '\n' :: rest => prepend (some '\n') (quotedLines .none rest)
  | _, '\r' :: '\n' :: rest => prepend (some '\n') (quotedLines .none rest)
  | _, '\\' :: '\n' :: rest => quotedLines .blank rest
  | _, '\\' :: '\r' :: '\n' :: rest => quotedLines .blank rest
  | _, '\\' :: ' ' :: rest => quotedLines .toLineEnd rest
  | _, '\\' :: '\t' :: rest => quotedLines .toLineEnd rest
  | _, '\\' :: 'u' :: a :: b :: c :: d :: rest =>
    prepend (codePoint? [a, b, c, d]) (quotedLines .none rest)
  | _, '\\' :: 'U' :: a :: b :: c :: d :: e :: f :: g :: h :: rest =>
    prepend (codePoint? [a, b, c, d, e, f, g, h]) (quotedLines .none rest)
  | _, '\\' :: c :: rest => prepend (escaped? c) (quotedLines .none rest)
  | fold, c :: rest =>
    if fold = .blank ∧ isSpace c then quotedLines .blank rest
    else if isPlain c then prepend (some c) (quotedLines .none rest)
    else none

/-- Reads a string in three single quotes.  One or two more quotes in front of the closing ones
belong to the string. -/
def literalLines : List Char → Option (List Char × List Char)
  | [] => none
  | '\'' :: '\'' :: '\'' :: '\'' :: '\'' :: rest => some (['\'', '\''], rest)
  | '\'' :: '\'' :: '\'' :: '\'' :: rest => some (['\''], rest)
  | '\'' :: '\'' :: '\'' :: rest => some ([], rest)
  | '\n' :: rest => prepend (some '\n') (literalLines rest)
  | '\r' :: '\n' :: rest => prepend (some '\n') (literalLines rest)
  | c :: rest => if isPlain c then prepend (some c) (literalLines rest) else none

/-- The characters behind a line break, if one comes first. -/
def dropLineBreak : List Char → List Char
  | '\n' :: rest => rest
  | '\r' :: '\n' :: rest => rest
  | cs => cs

/-- Reads any string with its quotes. -/
def string : List Char → Option (List Char × List Char)
  | '"' :: '"' :: '"' :: rest => quotedLines .none (dropLineBreak rest)
  | '"' :: rest => quoted rest
  | '\'' :: '\'' :: '\'' :: rest => literalLines (dropLineBreak rest)
  | '\'' :: rest => literal rest
  | _ => none

end ReplicatedStore.Toml
