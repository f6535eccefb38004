import ReplicatedStore.Text.Property.Format
import ReplicatedStore.Text.Property.Marks
import ReplicatedStore.Text.Property.Symbols

/-!
# What holds graphemes together

The parts that characters play in graphemes, which are what a reader takes for one character.
-/

namespace ReplicatedStore.Text.Property

/-- The carriage return. -/
def carriageReturn : CharSet := .ofRanges [(0xD, 0xD)]

/-- The line feed. -/
def lineFeed : CharSet := .ofRanges [(0xA, 0xA)]

/-- The control that joins what stands beside it. -/
def zeroWidthJoiner : CharSet := .ofRanges [(0x200D, 0x200D)]

namespace Grapheme

/-- Characters that extend a grapheme. -/
def extend : CharSet :=
  graphemeExtend ∪ emojiModifiers

/-- Letters that belong to the consonant behind them. -/
def prependedLetters : CharSet := .ofTable #[
  (0xD4E, 0xD4E), (0x111C2, 0x111C3), (0x113D1, 0x113D1), (0x1193F, 0x1193F), (0x11941, 0x11941),
  (0x11A3A, 0x11A3A), (0x11A84, 0x11A89), (0x11D46, 0x11D46), (0x11F02, 0x11F02)]

/-- Characters that begin the grapheme of the character behind them. -/
def prepended : CharSet :=
  prependedMarks ∪ prependedLetters

/-- Controls, which stand alone. -/
def control : CharSet :=
  (Category.among [.zl, .zp, .cc, .cf] ∪ (Category.among [.cn] ∩ ignorable)) \
    (carriageReturn ∪ lineFeed ∪ zeroWidthJoiner ∪ extend ∪ prepended)

/-- Marks that take space and do not belong to the grapheme before them. -/
def separateMarks : CharSet := .ofTable #[
  (0x102B, 0x102C), (0x1038, 0x1038), (0x1062, 0x1064), (0x1067, 0x106D), (0x1083, 0x1083),
  (0x1087, 0x108C), (0x108F, 0x108F), (0x109A, 0x109C), (0x1A61, 0x1A61), (0x1A63, 0x1A64),
  (0xAA7B, 0xAA7B), (0xAA7D, 0xAA7D), (0x11720, 0x11721)]

/-- Marks that take space and belong to the grapheme before them. -/
def spacingMark : CharSet :=
  ((Category.among [.mc] \ separateMarks) ∪ .ofRanges [(0xE33, 0xE33), (0xEB3, 0xEB3)]) \ extend

/-- Consonants that begin a syllable of Hangul. -/
def leadingConsonants : CharSet := .ofRanges [(0x1100, 0x115F), (0xA960, 0xA97C)]

/-- Vowels of syllables, of Hangul and of Kirat Rai. -/
def vowels : CharSet := .ofRanges [
  (0x1160, 0x11A7), (0xD7B0, 0xD7C6), (0x16D63, 0x16D63), (0x16D67, 0x16D6A)]

/-- Consonants that end a syllable of Hangul. -/
def trailingConsonants : CharSet := .ofRanges [(0x11A8, 0x11FF), (0xD7CB, 0xD7FB)]

/-- The syllables of Hangul, one in twenty-eight of which ends in a vowel. -/
def syllables : CharSet := .ofRanges [(0xAC00, 0xD7A3)]

/-- Syllables that end in a vowel. -/
def openSyllables : CharSet :=
  .ofCodes (List.range' 0xAC00 399 28)

/-- Syllables that end in a consonant. -/
def closedSyllables : CharSet :=
  syllables \ openSyllables

end Grapheme

end ReplicatedStore.Text.Property
