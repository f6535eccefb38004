import ReplicatedStore.Text.Property.Letters

/-!
# The most recent characters

Letters, marks and digits that the standard gained last. Names of commands and of groups know them
already, whereas classes of regular expressions do not.
-/

namespace ReplicatedStore.Text.Property

/-- The alphabetic characters among them. -/
def recentAlphabetic : CharSet := .ofTable #[
  (0x88F, 0x88F), (0xC5C, 0xC5C), (0xCDC, 0xCDC), (0xA7CE, 0xA7CF), (0xA7D2, 0xA7D2),
  (0xA7D4, 0xA7D4), (0xA7F1, 0xA7F1), (0x10940, 0x10959), (0x10EC5, 0x10EC7), (0x10EFA, 0x10EFB),
  (0x11B60, 0x11B67), (0x11DB0, 0x11DDB), (0x16EA0, 0x16EB8), (0x16EBB, 0x16ED3),
  (0x16FF2, 0x16FF6), (0x187F8, 0x187FF), (0x18D09, 0x18D1E), (0x18D80, 0x18DF2),
  (0x1E6C0, 0x1E6DE), (0x1E6E0, 0x1E6F5), (0x1E6FE, 0x1E6FF), (0x2B73A, 0x2B73F),
  (0x2CEA2, 0x2CEAD), (0x323B0, 0x33479)]

/-- The numbers among them. -/
def recentNumbers : CharSet := .ofRanges [(0x11DE0, 0x11DE9), (0x16FF4, 0x16FF6)]

/-- The ones that have a case. -/
def recentCased : CharSet := .ofRanges [
  (0xA7CE, 0xA7CF), (0xA7D2, 0xA7D2), (0xA7D4, 0xA7D4), (0xA7F1, 0xA7F1), (0x16EA0, 0x16EB8),
  (0x16EBB, 0x16ED3)]

/-- The ones that case ignores. -/
def recentCaseIgnorable : CharSet := .ofTable #[
  (0x1ACF, 0x1ADD), (0x1AE0, 0x1AEB), (0xA7F1, 0xA7F1), (0x10EC5, 0x10EC5), (0x10EFA, 0x10EFB),
  (0x11B60, 0x11B60), (0x11B62, 0x11B64), (0x11B66, 0x11B66), (0x11DD9, 0x11DD9),
  (0x16FF2, 0x16FF3), (0x1E6E3, 0x1E6E3), (0x1E6E6, 0x1E6E6), (0x1E6EE, 0x1E6EF),
  (0x1E6F5, 0x1E6F5), (0x1E6FF, 0x1E6FF)]

/-- The voiced sound of the throat, a letter that no longer has a case. -/
def caselessLetter : Char := Char.ofNat 0x295

/-- The alphabetic characters that names know. -/
def alphabeticInNames : CharSet :=
  alphabetic ∪ recentAlphabetic

/-- The numbers that names know. -/
def numbersInNames : CharSet :=
  Category.among [.nd, .nl, .no] ∪ recentNumbers

/-- The characters of names that have a case. -/
def casedInNames : CharSet :=
  (cased \ .single caselessLetter) ∪ recentCased

/-- The characters of names that case ignores. -/
def caseIgnorableInNames : CharSet :=
  caseIgnorable ∪ recentCaseIgnorable

end ReplicatedStore.Text.Property
