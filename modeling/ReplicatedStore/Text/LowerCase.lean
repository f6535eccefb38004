import ReplicatedStore.Text.Property.LowerCase
import ReplicatedStore.Text.Property.Recent

/-!
# Texts in small letters

The full mapping of Unicode to small letters.  Almost every character maps to one character by
itself; a dotted capital I gives two characters, and a capital sigma gives the final form at the end
of a word.
-/

namespace ReplicatedStore.Text

/-- The small form of a character, wherever it stands. -/
def lowerChar (c : Char) : List Char :=
  if c.toNat < 0x80 then [c.toLower]
  else if c = Property.dottedCapitalI then [Char.ofNat 0x69, Char.ofNat 0x307]
  else match Property.lowerCaseRuns.findSome? (·.image? c.toNat) with
    | some n => [Char.ofNat n]
    | none => [c]

/-- Is the first character, past those that case ignores, a cased one? -/
def startsCased (cs : List Char) : Bool :=
  (cs.dropWhile Property.caseIgnorableInNames.has).head?.any Property.casedInNames.has

/-- The capital sigma. -/
def capitalSigma : Char := Char.ofNat 0x3A3

/-- The small form of a capital sigma between the characters `before`, nearest first, and `after`:
the final form exactly when a cased character stands before it and none after it. -/
def lowerSigma (before after : List Char) : Char :=
  if startsCased before && !startsCased after then Char.ofNat 0x3C2 else Char.ofNat 0x3C3

/-- Small letters for the characters that follow `before`, whose nearest character comes first. -/
def lowerChars (before : List Char) : List Char → List Char
  | [] => []
  | c :: rest =>
    (if c = capitalSigma then [lowerSigma before rest] else lowerChar c) ++
      lowerChars (c :: before) rest

/-- The text in small letters. -/
def lowercase (s : String) : String :=
  String.ofList (lowerChars [] s.toList)

end ReplicatedStore.Text
