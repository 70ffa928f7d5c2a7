import Worksheet.Text.Boundary

/-!
# Blank characters and trimming

The blanks are the space, the ASCII layout and information separators, the no-break space and the
other spaces and line separators of Unicode.  `trim` removes them from both ends of a text.
-/

namespace Worksheet.Text

/-- Boundaries of the class of blank characters. -/
def blankBoundaries : List Nat := [
    9, 14, 28, 33, 133, 134, 160, 161, 5760, 5761, 8192, 8203, 8232, 8234, 8239, 8240, 8287, 8288,
    12288, 12289]

/-- Whether a character counts as white space around numbers, names and units. -/
def isBlank (c : Char) : Bool := withinBoundaries blankBoundaries c.toNat

/-- The text without its leading blanks. -/
def trimStart (s : List Char) : List Char := s.dropWhile isBlank

/-- The text without its trailing blanks. -/
def trimEnd (s : List Char) : List Char := (s.reverse.dropWhile isBlank).reverse

/-- The text without the blanks at either end. -/
def trimChars (s : List Char) : List Char := trimEnd (trimStart s)

/-- The text without the blanks at either end. -/
def trim (s : String) : String := String.ofList (trimChars s.toList)

/-- Whether a text is empty or has only blanks. -/
def isBlankText (s : String) : Bool := (trimChars s.toList).isEmpty

end Worksheet.Text
