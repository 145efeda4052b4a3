/-!
# Blanks

The characters that count as white space. Text is stripped of them at both ends; a number may be
surrounded by all of them except the four separator controls.
-/

namespace NodeConsole.Text

/-- Code points of the blanks. -/
def blankCodes : List Nat :=
  [0x09, 0x0a, 0x0b, 0x0c, 0x0d, 0x1c, 0x1d, 0x1e, 0x1f, 0x20, 0x85, 0xa0, 0x1680, 0x2000, 0x2001,
   0x2002, 0x2003, 0x2004, 0x2005, 0x2006, 0x2007, 0x2008, 0x2009, 0x200a, 0x2028, 0x2029, 0x202f,
   0x205f, 0x3000]

/-- White space. -/
def isBlank (c : Char) : Bool :=
  blankCodes.contains c.toNat

/-- White space that may surround a number: the separator controls may not. -/
def isNumberBlank (c : Char) : Bool :=
  isBlank c && !(0x1c ≤ c.toNat && c.toNat ≤ 0x1f)

/-- A text without the characters of a class at its end. -/
def dropLastWhile (drops : Char → Bool) (text : List Char) : List Char :=
  (text.reverse.dropWhile drops).reverse

/-- A text without the characters of a class at both ends. -/
def trim (drops : Char → Bool) (text : List Char) : List Char :=
  dropLastWhile drops (text.dropWhile drops)

/-- A text without the blanks at both ends. -/
def strip (text : List Char) : List Char :=
  trim isBlank text

end NodeConsole.Text
