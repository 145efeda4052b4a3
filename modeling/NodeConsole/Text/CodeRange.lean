/-!
# Ranges of code points

A character class that no short rule describes is a list of closed ranges.
-/

namespace NodeConsole.Text

/-- A character lies in a list of ranges when one of them, ends included, holds its code point. -/
def within (ranges : List (Nat × Nat)) (c : Char) : Bool :=
  ranges.any fun range => range.1 ≤ c.toNat && c.toNat ≤ range.2

end NodeConsole.Text
