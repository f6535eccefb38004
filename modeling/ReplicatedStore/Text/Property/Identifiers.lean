import ReplicatedStore.Text.Property.CategoryRuns

/-!
# Identifiers

What names in formal languages are made of, and the signs and blanks around them.
-/

namespace ReplicatedStore.Text.Property

/-- Characters that may start an identifier although they are no letters. -/
def otherIdStart : CharSet := .ofRanges [
  (0x1885, 0x1886), (0x2118, 0x2118), (0x212E, 0x212E), (0x309B, 0x309C)]

/-- Characters that may start an identifier. -/
def idStart : CharSet :=
  (Category.among [.lu, .ll, .lt, .lm, .lo, .nl] ∪ otherIdStart) \ .ofRanges [(0x2E2F, 0x2E2F)]

/-- Characters that may stand later in an identifier although their category does not. -/
def otherIdContinue : CharSet := .ofTable #[
  (0xB7, 0xB7), (0x387, 0x387), (0x1369, 0x1371), (0x19DA, 0x19DA), (0x200C, 0x200D),
  (0x30FB, 0x30FB), (0xFF65, 0xFF65)]

/-- Characters that may stand later in an identifier. -/
def idContinue : CharSet :=
  idStart ∪ Category.among [.mn, .mc, .nd, .pc] ∪ otherIdContinue

/-- Characters of identifiers that a normal form breaks up. -/
def unstableInside : CharSet := .ofTable #[
  (0x37A, 0x37A), (0x309B, 0x309C), (0xFC5E, 0xFC63), (0xFDFA, 0xFDFB), (0xFE70, 0xFE70),
  (0xFE72, 0xFE72), (0xFE74, 0xFE74), (0xFE76, 0xFE76), (0xFE78, 0xFE78), (0xFE7A, 0xFE7A),
  (0xFE7C, 0xFE7C), (0xFE7E, 0xFE7E)]

/-- Characters that a normal form turns into ones that may not start an identifier. -/
def unstableAtStart : CharSet := .ofRanges [(0xE33, 0xE33), (0xEB3, 0xEB3), (0xFF9E, 0xFF9F)]

/-- Characters that may start an identifier in every normal form. -/
def xidStart : CharSet :=
  (idStart \ unstableInside) \ unstableAtStart

/-- Characters that may stand later in an identifier in every normal form. -/
def xidContinue : CharSet :=
  idContinue \ unstableInside

/-- Signs that may start an identifier of mathematics. -/
def mathStart : CharSet := .ofTable #[
  (0x2202, 0x2202), (0x2207, 0x2207), (0x221E, 0x221E), (0x1D6C1, 0x1D6C1), (0x1D6DB, 0x1D6DB),
  (0x1D6FB, 0x1D6FB), (0x1D715, 0x1D715), (0x1D735, 0x1D735), (0x1D74F, 0x1D74F),
  (0x1D76F, 0x1D76F), (0x1D789, 0x1D789), (0x1D7A9, 0x1D7A9), (0x1D7C3, 0x1D7C3)]

/-- Signs that may stand later in an identifier of mathematics: raised and lowered ones too. -/
def mathContinue : CharSet :=
  mathStart ∪ .ofRanges [
    (0xB2, 0xB3), (0xB9, 0xB9), (0x2070, 0x2070), (0x2074, 0x207E), (0x2080, 0x208E)]

/-- Signs that languages may give a meaning. -/
def patternSyntax : CharSet := .ofTable #[
  (0x21, 0x2F), (0x3A, 0x40), (0x5B, 0x5E), (0x60, 0x60), (0x7B, 0x7E), (0xA1, 0xA7), (0xA9, 0xA9),
  (0xAB, 0xAC), (0xAE, 0xAE), (0xB0, 0xB1), (0xB6, 0xB6), (0xBB, 0xBB), (0xBF, 0xBF), (0xD7, 0xD7),
  (0xF7, 0xF7), (0x2010, 0x2027), (0x2030, 0x203E), (0x2041, 0x2053), (0x2055, 0x205E),
  (0x2190, 0x245F), (0x2500, 0x2775), (0x2794, 0x2BFF), (0x2E00, 0x2E7F), (0x3001, 0x3003),
  (0x3008, 0x3020), (0x3030, 0x3030), (0xFD3E, 0xFD3F), (0xFE45, 0xFE46)]

/-- White space of languages. -/
def patternWhiteSpace : CharSet := .ofRanges [
  (0x9, 0xD), (0x20, 0x20), (0x85, 0x85), (0x200E, 0x200F), (0x2028, 0x2029)]

end ReplicatedStore.Text.Property
