import ReplicatedStore.Text.CharSet

/-!
# Ranges of characters in UTF-8

The octets of the characters from a first to a last one are not one range for each place, since the
first octet limits those behind it.  They are a few rows of ranges: the range of the first octet,
that of the second, and so on, where every choice of octets along a row is a character.
-/

namespace ReplicatedStore.Text

/-- The octets that stand at each place, from the first to the last of each range. -/
abbrev OctetRow := List (Nat × Nat)

/-- The rows for the numbers from `low` to `high` when a lead octet, which adds `lead`, and so many
octets of six bits write them. -/
def octetRows (lead : Nat) : Nat → Nat → Nat → List OctetRow
  | 0, low, high => [[(lead + low, lead + high)]]
  | count + 1, low, high =>
    let unit := Nat.pow 64 (count + 1)
    let rest := octetRows 0x80 count
    let full := (List.replicate (count + 1) (0x80, 0xBF) : OctetRow)
    let first := low / unit
    let last := high / unit
    if first = last then (rest (low % unit) (high % unit)).map ((lead + first, lead + first) :: ·)
    else
      let head :=
        if low % unit = 0 then []
        else (rest (low % unit) (unit - 1)).map ((lead + first, lead + first) :: ·)
      let tail :=
        if high % unit = unit - 1 then []
        else (rest 0 (high % unit)).map ((lead + last, lead + last) :: ·)
      let start := if low % unit = 0 then first else first + 1
      let stop := if high % unit = unit - 1 then last + 1 else last
      let middle := if start < stop then [(lead + start, lead + stop - 1) :: full] else []
      head ++ middle ++ tail

/-- The first and the last code point that one, two, three and four octets write, what the first of
the octets adds, and how many follow it. -/
def octetForms : List ((Nat × Nat) × Nat × Nat) := [
  ((0x0, 0x7F), 0x0, 0), ((0x80, 0x7FF), 0xC0, 1), ((0x800, 0xFFFF), 0xE0, 2),
  ((0x10000, 0x10FFFF), 0xF0, 3)]

/-- The rows of a range of characters. -/
def rowsOfRange (range : Nat × Nat) : List OctetRow :=
  octetForms.flatMap fun (form, lead, count) =>
    let low := max range.1 form.1
    let high := min range.2 form.2
    if low ≤ high then octetRows lead count low high else []

/-- The rows of a set of characters. -/
def CharSet.octetRows (s : CharSet) : List OctetRow :=
  s.ranges.flatMap rowsOfRange

end ReplicatedStore.Text
