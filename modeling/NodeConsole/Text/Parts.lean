/-!
# Parts of texts

Splitting at a separator, joining with one, searching for a word, and padding to a width.
-/

namespace NodeConsole.Text

/-- The longest start of a text that holds only characters of a class, and the rest. -/
def leading (holds : Char → Bool) (text : List Char) : List Char × List Char :=
  (text.takeWhile holds, text.dropWhile holds)

/-- Splits at every separator: `n` separators give `n + 1` parts. -/
def splitOn (separator : Char) : List Char → List (List Char)
  | [] => [[]]
  | c :: rest =>
    if c = separator then [] :: splitOn separator rest
    else
      match splitOn separator rest with
      | [] => [[c]]
      | part :: parts => (c :: part) :: parts

/-- A word occurs in a text. -/
def occursIn (word : List Char) : List Char → Bool
  | [] => word.isEmpty
  | c :: rest => word.isPrefixOf (c :: rest) || occursIn word rest

/-- Pads on the left with blanks up to a width. -/
def padLeft (width : Nat) (text : List Char) : List Char :=
  List.replicate (width - text.length) ' ' ++ text

/-- Joins texts with a separator between neighbours. -/
def joinWith (separator : String) (parts : List String) : String :=
  String.intercalate separator parts

end NodeConsole.Text
