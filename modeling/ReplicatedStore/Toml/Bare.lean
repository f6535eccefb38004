import ReplicatedStore.Text.Decimal
import ReplicatedStore.Text.Hexadecimal
import ReplicatedStore.Toml.Quoted
import ReplicatedStore.Toml.Value
import ReplicatedStore.Weight

/-!
# Bare words of configuration texts

Numbers, truth values and moments stand without quotes.  Whatever follows one of them is no
character that may stand in one, so a value is the longest run of such characters, its word, and it
is known from the word as a whole.  Only a moment may hold a space, between its date and its time.
-/

namespace ReplicatedStore.Toml

/-! ## Numbers -/

/-- The digits of a numeral, in which one underscore may stand between two digits. -/
def ungroup? (isDigit : Char → Bool) : List Char → Option (List Char)
  | [] => none
  | [c] => if isDigit c then some [c] else none
  | c :: '_' :: rest => if isDigit c then (ungroup? isDigit rest).map (c :: ·) else none
  | c :: rest => if isDigit c then (ungroup? isDigit rest).map (c :: ·) else none

/-- Has a numeral a minus sign, and what stands behind its sign? -/
def sign : List Char → Bool × List Char
  | '-' :: rest => (true, rest)
  | '+' :: rest => (false, rest)
  | cs => (false, cs)

/-- The digits of a decimal numeral without its sign.  A zero comes first only where it is alone. -/
def wholeDigits? (cs : List Char) : Option (List Char) :=
  match cs with
  | '0' :: _ :: _ => none
  | _ => ungroup? Char.isDigit cs

/-- The integer, if it is one of 64 bits. -/
def integerOf? (negative : Bool) (magnitude : Nat) : Option Value :=
  let value : Int := if negative then -(magnitude : Int) else magnitude
  if Decimal.fitsSigned64 value then some (.integer value) else none

/-- The integer that a word denotes in base `base`, which is at most sixteen. -/
def integerInBase? (base : Nat) (cs : List Char) : Option Value :=
  let isDigit c := match Text.hexValue? c with
    | some d => d < base
    | none => false
  (ungroup? isDigit cs).bind fun digits =>
    integerOf? false (digits.foldl (fun n c => n * base + (Text.hexValue? c).getD 0) 0)

/-- The integer that a word denotes. -/
def integer? : List Char → Option Value
  | '0' :: 'x' :: rest => integerInBase? 16 rest
  | '0' :: 'o' :: rest => integerInBase? 8 rest
  | '0' :: 'b' :: rest => integerInBase? 2 rest
  | cs =>
    let (negative, whole) := sign cs
    (wholeDigits? whole).bind fun digits => integerOf? negative (Weight.digitsValue digits)

/-- The part of a word up to a mark, and the part behind the mark if there is one. -/
def splitAtMark (isMark : Char → Bool) (cs : List Char) : List Char × Option (List Char) :=
  match cs.dropWhile (!isMark ·) with
  | [] => (cs, none)
  | _ :: behind => (cs.takeWhile (!isMark ·), some behind)

/-- The digits behind a mark, none where there is no mark; a mark needs digits behind it. -/
def digitsBehind? : Option (List Char) → Option (List Char)
  | none => some []
  | some cs => ungroup? Char.isDigit cs

/-- The exponent behind its mark, zero where there is no mark. -/
def exponent? : Option (List Char) → Option Int
  | none => some 0
  | some cs =>
    let (negative, digits) := sign cs
    (ungroup? Char.isDigit digits).map fun digits =>
      if negative then -(Weight.digitsValue digits : Int) else Weight.digitsValue digits

/-- Does the word denote a number with a fraction or an exponent?  One that is too large for the
binary format of 64 bits does not, unless it is negative. -/
def isReal (cs : List Char) : Bool :=
  let (negative, unsigned) := sign cs
  let (mantissa, exponent) := splitAtMark (fun c => c == 'e' || c == 'E') unsigned
  let (whole, fraction) := splitAtMark (· == '.') mantissa
  match wholeDigits? whole, digitsBehind? fraction, exponent? exponent with
  | some whole, some behind, some e =>
    (fraction.isSome || exponent.isSome) &&
      (negative || Weight.decimalRank (Weight.digitsValue (whole ++ behind)) (e - behind.length) !=
        Weight.infinityRank)
  | _, _, _ => unsigned == ['i', 'n', 'f'] || unsigned == ['n', 'a', 'n']

/-! ## Moments -/

/-- Are these the two digits of a number within the limits? -/
def isField (low high : Nat) (a b : Char) : Bool :=
  let n := Weight.digitsValue [a, b]
  a.isDigit && b.isDigit && low ≤ n && n ≤ high

/-- The number of days of a month. -/
def daysInMonth (year month : Nat) : Nat :=
  if month = 2 then
    if year % 4 = 0 ∧ (year % 100 ≠ 0 ∨ year % 400 = 0) then 29 else 28
  else if month ∈ [4, 6, 9, 11] then 30
  else 31

/-- Is this a date: year, month and day? -/
def isDate : List Char → Bool
  | [a, b, c, d, '-', e, f, '-', g, h] =>
    [a, b, c, d].all Char.isDigit && isField 1 12 e f &&
      isField 1 (daysInMonth (Weight.digitsValue [a, b, c, d]) (Weight.digitsValue [e, f])) g h
  | _ => false

/-- Is this the distance of a time of day from universal time? -/
def isOffset : List Char → Bool
  | ['Z'] => true
  | ['z'] => true
  | [sign, a, b, ':', c, d] => (sign == '+' || sign == '-') && isField 0 23 a b && isField 0 59 c d
  | _ => false

/-- What stands behind the fraction of a second, if there is one. -/
def behindFraction : List Char → List Char
  | '.' :: c :: rest => if c.isDigit then rest.dropWhile Char.isDigit else '.' :: c :: rest
  | cs => cs

/-- Is this a time of day, where `offset` tells whether its distance from universal time may be
given?  A minute may have a leap second. -/
def isTime (offset : Bool) : List Char → Bool
  | a :: b :: ':' :: c :: d :: ':' :: e :: f :: rest =>
    isField 0 23 a b && isField 0 59 c d && isField 0 60 e f &&
      ((behindFraction rest).isEmpty || (offset && isOffset (behindFraction rest)))
  | _ => false

/-- Is this a moment in one word: a date and a time with the letter between them, or one of the
two? -/
def isMoment (cs : List Char) : Bool :=
  isDate cs || isTime false cs ||
    match cs.drop 10 with
    | letter :: time => (letter == 'T' || letter == 't') && isDate (cs.take 10) && isTime true time
    | [] => false

/-! ## Words -/

/-- The value of a word. -/
def ofWord? (cs : List Char) : Option Value :=
  if cs = ['t', 'r', 'u', 'e'] then some (.truth true)
  else if cs = ['f', 'a', 'l', 's', 'e'] then some (.truth false)
  else if isMoment cs then some (.moment (String.ofList cs))
  else if isReal cs then some (.real (String.ofList cs))
  else integer? cs

/-- May the character stand in a word? -/
def isWordPart (c : Char) : Bool :=
  c.isAlphanum || c == '+' || c == '-' || c == '_' || c == '.' || c == ':'

/-- Reads a value that stands without quotes. -/
def bare (cs : List Char) : Option (Value × List Char) :=
  let (word, rest) := cs.span isWordPart
  let (time, behind) := match rest with
    | ' ' :: more => more.span isWordPart
    | _ => ([], rest)
  if isDate word && !time.isEmpty then
    if isTime true time then some (.moment (String.ofList (word ++ ' ' :: time)), behind) else none
  else (ofWord? word).map fun value => (value, rest)

end ReplicatedStore.Toml
