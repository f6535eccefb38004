import ReplicatedStore.Text.Blank
import ReplicatedStore.Text.Decimal

/-!
# Numbers to sort by

A text denotes a number when it is, apart from white space around it, a decimal numeral with an
optional sign, point and exponent, or the name of infinity or of no number at all.  The number is
rounded to the nearest one of the binary format with 53 digits, a tie to the even one.  All that
sorting needs of it is its rank in the total order of that format, where a number with a minus sign
comes before the same one without, -0 before 0 among them, and what is no number comes at either
end.
-/

namespace ReplicatedStore.Weight

/-- The rank of positive infinity, which the finite numbers stay below. -/
def infinityRank : Nat := 0x7FF <<< 52

/-- The rank of what is no number. -/
def notNumberRank : Nat := infinityRank + 1 <<< 51

/-- The quotient rounded to the nearest integer, a tie to the even one. -/
def roundedQuotient (n d : Nat) : Nat :=
  let q := n / d
  let twice := 2 * (n % d)
  if twice < d then q
  else if d < twice then q + 1
  else q + q % 2

/-- The binary exponent of a positive quotient: `2 ^ e ≤ n / d < 2 ^ (e + 1)`. -/
def binaryExponent (n d : Nat) : Int :=
  let guess : Int := (n.log2 : Int) - d.log2
  let reaches := if 0 ≤ guess then d <<< guess.toNat ≤ n else d ≤ n <<< (-guess).toNat
  if reaches then guess else guess - 1

/-- The rank of a positive quotient.  The exponent of its last digit is at least -1074; counting it
from there and adding the digits puts all finite numbers in their order. -/
def quotientRank (n d : Nat) : Nat :=
  let unit := max (binaryExponent n d - 52) (-1074)
  let digits :=
    if 0 ≤ unit then roundedQuotient n (d <<< unit.toNat)
    else roundedQuotient (n <<< (-unit).toNat) d
  min ((unit + 1074).toNat <<< 52 + digits) infinityRank

/-- The rank of `digits * 10 ^ exponent`.  Numbers far outside the range of the format need no
division. -/
def decimalRank (digits : Nat) (exponent : Int) : Nat :=
  let length : Int := (Nat.toDigits 10 digits).length
  if digits = 0 ∨ length + exponent < -400 then 0
  else if 400 < length + exponent then infinityRank
  else if 0 ≤ exponent then quotientRank (digits * Nat.pow 10 exponent.toNat) 1
  else quotientRank digits (Nat.pow 10 (-exponent).toNat)

/-- The number that digits denote. -/
def digitsValue (cs : List Char) : Nat :=
  cs.foldl (fun n c => n * 10 + (c.toNat - 0x30)) 0

/-- The exponent after its mark: an optional sign and at least one digit. -/
def exponent? (cs : List Char) : Option Int :=
  let (negative, digits) := match cs with
    | '-' :: rest => (true, rest)
    | '+' :: rest => (false, rest)
    | rest => (false, rest)
  if digits.isEmpty || !digits.all Char.isDigit then none
  else if negative then some (-(digitsValue digits : Int)) else some (digitsValue digits)

/-- The rank of a numeral without its sign: digits with an optional point among or beside them, and
an optional exponent. -/
def numeral? (cs : List Char) : Option Nat := do
  let whole := cs.takeWhile Char.isDigit
  let afterWhole := cs.dropWhile Char.isDigit
  let (fraction, tail) := match afterWhole with
    | '.' :: rest => (rest.takeWhile Char.isDigit, rest.dropWhile Char.isDigit)
    | rest => ([], rest)
  if whole.isEmpty && fraction.isEmpty then none
  let exponent ← match tail with
    | [] => some 0
    | mark :: rest => if mark = 'e' ∨ mark = 'E' then exponent? rest else none
  return decimalRank (digitsValue (whole ++ fraction)) (exponent - fraction.length)

/-- The rank of what is written without a sign. -/
def unsigned? (cs : List Char) : Option Nat :=
  match numeral? cs with
  | some rank => some rank
  | none =>
    let name := String.ofList (cs.map Char.toLower)
    if name = "inf" ∨ name = "infinity" then some infinityRank
    else if name = "nan" then some notNumberRank
    else none

/-- The rank of the number that the characters denote. -/
def signed? : List Char → Option Int
  | '-' :: rest => (unsigned? rest).map fun rank => -(rank : Int) - 1
  | '+' :: rest => (unsigned? rest).map Int.ofNat
  | cs => (unsigned? cs).map Int.ofNat

/-- The rank of the number that the octets denote, if they denote one. -/
def rank? (data : Bytes) : Option Int :=
  data.text?.bind fun text => signed? (Text.trim text.toList)

end ReplicatedStore.Weight
