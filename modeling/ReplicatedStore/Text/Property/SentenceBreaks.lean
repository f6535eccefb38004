import ReplicatedStore.Text.Property.WordBreaks

/-!
# What holds sentences together

The parts that characters play at the ends of sentences.
-/

namespace ReplicatedStore.Text.Property

namespace Sentence

/-- Characters that part paragraphs, besides the two of every system. -/
def separator : CharSet := .ofRanges [(0x85, 0x85), (0x2028, 0x2029)]

/-- Characters that extend the one before them. -/
def extend : CharSet :=
  graphemeExtend ∪ Category.among [.mc] ∪ zeroWidthJoiner

/-- Characters of numbers. -/
def numeric : CharSet :=
  Word.numeric ∪ .ofRanges [(0x66C, 0x66C)]

/-- Format characters that sentences reach over. -/
def format : CharSet :=
  Category.among [.cf] \ (extend ∪ numeric)

/-- White space inside of a paragraph. -/
def space : CharSet :=
  whiteSpace \ (separator ∪ carriageReturn ∪ lineFeed)

/-- Small letters. -/
def lower : CharSet :=
  lowercase \ (graphemeExtend ∪ .ofRanges [(0x10D0, 0x10FA), (0x10FD, 0x10FF)])

/-- Capital letters. -/
def upper : CharSet :=
  (uppercase ∪ Category.among [.lt]) \ .ofRanges [(0x1C90, 0x1CBA), (0x1CBD, 0x1CBF)]

/-- Letters that are neither. -/
def otherLetter : CharSet :=
  (alphabetic ∪ .ofRanges [(0xA0, 0xA0), (0x5F3, 0x5F3)]) \
    (lower ∪ upper ∪ extend ∪ space ∪ numeric)

/-- Full stops, which do not always end a sentence. -/
def fullStop : CharSet := .ofRanges [
  (0x2E, 0x2E), (0x2024, 0x2024), (0xFE52, 0xFE52), (0xFF0E, 0xFF0E)]

/-- Marks that end a sentence. -/
def terminal : CharSet :=
  sentenceTerminals \ fullStop

/-- Signs after which a sentence goes on. -/
def continuing : CharSet := .ofTable #[
  (0x2C, 0x2D), (0x3A, 0x3B), (0x37E, 0x37E), (0x55D, 0x55D), (0x60C, 0x60D), (0x7F8, 0x7F8),
  (0x1802, 0x1802), (0x1808, 0x1808), (0x2013, 0x2014), (0x3001, 0x3001), (0xFE10, 0xFE11),
  (0xFE13, 0xFE14), (0xFE31, 0xFE32), (0xFE50, 0xFE51), (0xFE54, 0xFE55), (0xFE58, 0xFE58),
  (0xFE63, 0xFE63), (0xFF0C, 0xFF0D), (0xFF1A, 0xFF1B), (0xFF64, 0xFF64)]

/-- Brackets and quotation marks, which may follow the end of a sentence. -/
def close : CharSet :=
  Category.among [.ps, .pe, .pi, .pf] ∪ .ofRanges [
    (0x22, 0x22), (0x27, 0x27), (0x275B, 0x2760), (0x2E00, 0x2E01), (0x2E06, 0x2E08),
    (0x2E0B, 0x2E0B), (0x1F676, 0x1F678)]

end Sentence

end ReplicatedStore.Text.Property
