import ReplicatedStore.Text.Property.GraphemeBreaks
import ReplicatedStore.Text.Property.Letters
import ReplicatedStore.Text.Property.Script

/-!
# What holds words together

The parts that characters play at the edges of words.
-/

namespace ReplicatedStore.Text.Property

namespace Word

/-- The double quotation mark. -/
def doubleQuote : CharSet := .ofRanges [(0x22, 0x22)]

/-- The single quotation mark. -/
def singleQuote : CharSet := .ofRanges [(0x27, 0x27)]

/-- Letters of Hebrew. -/
def hebrewLetter : CharSet :=
  charsOfScript "hebrew" ∩ Category.among [.lo]

/-- Characters that begin a line, besides the two of every system. -/
def newline : CharSet := .ofRanges [(0xB, 0xC), (0x85, 0x85), (0x2028, 0x2029)]

/-- Characters that extend the word before them. -/
def extend : CharSet :=
  graphemeExtend ∪ Category.among [.mc] ∪ emojiModifiers

/-- Format characters that words reach over. -/
def format : CharSet :=
  Category.among [.cf] \ (.ofRanges [(0x200B, 0x200D)] ∪ prependedMarks ∪ graphemeExtend)

/-- Characters of Katakana, and signs that go with them. -/
def katakana : CharSet :=
  charsOfScript "katakana" ∪ .ofRanges [
    (0x3031, 0x3035), (0x309B, 0x309C), (0x30A0, 0x30A0), (0x30FC, 0x30FC), (0xFF70, 0xFF70)]

/-- Characters of numbers. -/
def numeric : CharSet :=
  decimalDigits ∪ .ofRanges [(0x66B, 0x66B), (0x19DA, 0x19DA)] ∪
    (prependedMarks \ .ofRanges [(0x70F, 0x70F)])

/-- Signs that stand between letters. -/
def midLetter : CharSet := .ofTable #[
  (0x3A, 0x3A), (0xB7, 0xB7), (0x387, 0x387), (0x55F, 0x55F), (0x5F4, 0x5F4), (0x2027, 0x2027),
  (0xFE13, 0xFE13), (0xFE55, 0xFE55), (0xFF1A, 0xFF1A)]

/-- Signs that stand between digits. -/
def midNumber : CharSet := .ofTable #[
  (0x2C, 0x2C), (0x3B, 0x3B), (0x37E, 0x37E), (0x589, 0x589), (0x60C, 0x60D), (0x66C, 0x66C),
  (0x7F8, 0x7F8), (0x2044, 0x2044), (0xFE10, 0xFE10), (0xFE14, 0xFE14), (0xFE50, 0xFE50),
  (0xFE54, 0xFE54), (0xFF0C, 0xFF0C), (0xFF1B, 0xFF1B)]

/-- Signs that stand between letters and between digits. -/
def midEither : CharSet := .ofRanges [
  (0x2E, 0x2E), (0x2018, 0x2019), (0x2024, 0x2024), (0xFE52, 0xFE52), (0xFF07, 0xFF07),
  (0xFF0E, 0xFF0E)]

/-- Characters that go on with a word whatever it is made of. -/
def extendAny : CharSet :=
  Category.among [.pc] ∪ .ofRanges [(0x202F, 0x202F)]

/-- Spaces where a line may break. -/
def space : CharSet :=
  Category.among [.zs] \ .ofRanges [(0xA0, 0xA0), (0x2007, 0x2007), (0x202F, 0x202F)]

/-- Signs that count as letters. -/
def letterSigns : CharSet := .ofTable #[
  (0xB8, 0xB8), (0x2C2, 0x2C5), (0x2D2, 0x2D7), (0x2DE, 0x2DF), (0x2E5, 0x2EB), (0x2ED, 0x2ED),
  (0x2EF, 0x2FF), (0x55A, 0x55C), (0x55E, 0x55E), (0x58A, 0x58A), (0x5F3, 0x5F3), (0x70F, 0x70F),
  (0xA708, 0xA716), (0xA720, 0xA721), (0xA789, 0xA78A), (0xAB5B, 0xAB5B)]

/-- Letters of scripts that do not part words. -/
def unspacedLetters : CharSet := .ofRanges []

/-- Letters of words. -/
def letter : CharSet :=
  (alphabetic ∪ letterSigns) \
    (ideographic ∪ unspacedLetters ∪ charsOfScript "hiragana" ∪ katakana ∪ hebrewLetter ∪ extend ∪
      numeric)

end Word

end ReplicatedStore.Text.Property
