import FolderTag.Text.Property.Letter
import FolderTag.Text.Property.Numeral
import FolderTag.Text.Property.Mark
import FolderTag.Text.Property.Graphic

/-! # Character classes

The classes that patterns, names and quoted text refer to. All of them follow Unicode 14. -/

namespace FolderTag.Text

def isLetter (c : Char) : Bool := CodeRange.covers letterRanges c.toNat

/-- A character that stands for a number and is no letter. -/
def isNumeral (c : Char) : Bool := CodeRange.covers numeralRanges c.toNat

def isMark (c : Char) : Bool := CodeRange.covers markRanges c.toNat

/-- Letters and numerals of any script. -/
def isAlphanumeric (c : Char) : Bool := isLetter c || isNumeral c

/-- The characters of words: letters, numerals and the underscore. -/
def isWordChar (c : Char) : Bool := isAlphanumeric c || c == '_'

/-- The characters of words among the first 128 code points. -/
def isAsciiWordChar (c : Char) : Bool := c.isAlphanum || c == '_'

/-- The value of a decimal digit of any script, by its distance from the zero of its row. -/
def decimalValue? (c : Char) : Option Nat :=
  (decimalZeros.find? fun z => z ≤ c.toNat && c.toNat < z + 10).map (c.toNat - ·)

def isDecimal (c : Char) : Bool := (decimalValue? c).isSome

/-- A digit in any form: decimal, superscript, subscript or enclosed. -/
def isDigitForm (c : Char) : Bool := isDecimal c || CodeRange.covers digitFormRanges c.toNat

/-- A character with a visible form, or the plain space. -/
def isPrintable (c : Char) : Bool :=
  isAlphanumeric c || isMark c || CodeRange.covers symbolRanges c.toNat

/-- Numerals that may start an identifier, beside a few symbols kept for stability. -/
def identifierStartExtras : List CodeRange := [
  ⟨0x5f, 0x5f⟩, ⟨0x16ee, 0x16f0⟩, ⟨0x1885, 0x1886⟩, ⟨0x2118, 0x2118⟩, ⟨0x212e, 0x212e⟩,
  ⟨0x2160, 0x2182⟩, ⟨0x2185, 0x2188⟩, ⟨0x3007, 0x3007⟩, ⟨0x3021, 0x3029⟩, ⟨0x3038, 0x303a⟩,
  ⟨0xa6e6, 0xa6ef⟩, ⟨0x10140, 0x10174⟩, ⟨0x10341, 0x10341⟩, ⟨0x1034a, 0x1034a⟩,
  ⟨0x103d1, 0x103d5⟩, ⟨0x12400, 0x1246e⟩]

/-- Letters that may not start an identifier. -/
def identifierStartExceptions : List CodeRange := [
  ⟨0x37a, 0x37a⟩, ⟨0xe33, 0xe33⟩, ⟨0xeb3, 0xeb3⟩, ⟨0x2e2f, 0x2e2f⟩, ⟨0xfc5e, 0xfc63⟩,
  ⟨0xfdfa, 0xfdfb⟩, ⟨0xfe70, 0xfe70⟩, ⟨0xfe72, 0xfe72⟩, ⟨0xfe74, 0xfe74⟩, ⟨0xfe76, 0xfe76⟩,
  ⟨0xfe78, 0xfe78⟩, ⟨0xfe7a, 0xfe7a⟩, ⟨0xfe7c, 0xfe7c⟩, ⟨0xfe7e, 0xfe7e⟩, ⟨0xff9e, 0xff9f⟩]

/-- Characters that may follow in an identifier beside starters, marks and decimal digits. -/
def identifierPartExtras : List CodeRange := [
  ⟨0xb7, 0xb7⟩, ⟨0x387, 0x387⟩, ⟨0xe33, 0xe33⟩, ⟨0xeb3, 0xeb3⟩, ⟨0x1369, 0x1371⟩,
  ⟨0x19da, 0x19da⟩, ⟨0x203f, 0x2040⟩, ⟨0x2054, 0x2054⟩, ⟨0xfe33, 0xfe34⟩, ⟨0xfe4d, 0xfe4f⟩,
  ⟨0xff3f, 0xff3f⟩, ⟨0xff9e, 0xff9f⟩]

def isIdentifierStart (c : Char) : Bool :=
  (isLetter c && !CodeRange.covers identifierStartExceptions c.toNat) ||
    CodeRange.covers identifierStartExtras c.toNat

def isIdentifierPart (c : Char) : Bool :=
  isIdentifierStart c || isMark c || isDecimal c ||
    CodeRange.covers identifierPartExtras c.toNat

/-- A starter followed by any number of identifier characters. -/
def isIdentifier : List Char → Bool
  | [] => false
  | c :: cs => isIdentifierStart c && cs.all isIdentifierPart

end FolderTag.Text
