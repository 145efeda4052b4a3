import NodeConsole.Text.Parts

/-!
# Wildcards

A pattern for one name: `*` stands for any characters, `?` for any one character, and brackets for
one character out of a class. A class lists characters and ranges; an exclamation mark at its start
negates it; a closing bracket counts as a member when it comes first. A bracket that is never closed
stands for itself.
-/

namespace NodeConsole.Files

/-- A class of characters: chunks of members. The last member of a chunk and the first of the next
are the ends of a range. -/
structure CharClass where
  negated : Bool
  chunks : List (List Char)
  deriving DecidableEq, Repr

namespace CharClass

/-- A character lies in the range between two neighbouring chunks. -/
def inRange (c : Char) : List (List Char) → Bool
  | low :: high :: rest =>
    (match low.getLast?, high.head? with
      | some first, some last => first.toNat ≤ c.toNat && c.toNat ≤ last.toNat
      | _, _ => false) || inRange c (high :: rest)
  | _ => false

/-- A character belongs to a class. -/
def contains (found : CharClass) (c : Char) : Bool :=
  (found.chunks.any (·.contains c) || inRange c found.chunks) != found.negated

/-- Cuts a class at its range hyphens. A hyphen within the first `skip` characters is a member, and
so are the two characters after a range hyphen; a hyphen at the end belongs to the chunk before it.
`chunk` holds the chunk being read, last character first. -/
def cut (skip : Nat) (chunk : List Char) : List Char → List (List Char)
  | [] => [chunk.reverse]
  | c :: rest =>
    if skip = 0 ∧ c = '-' then
      if rest = [] then [('-' :: chunk).reverse]
      else chunk.reverse :: cut 2 [] rest
    else cut (skip - 1) (c :: chunk) rest

/-- Joins neighbouring chunks whose range would run backward, leaving out its ends. The last range
is looked at first. -/
def withoutBackwardRanges : List (List Char) → List (List Char)
  | [] => []
  | chunk :: rest =>
    match withoutBackwardRanges rest with
    | [] => [chunk]
    | next :: others =>
      match chunk.getLast?, next.head? with
      | some first, some last =>
        if last.toNat < first.toNat then (chunk.dropLast ++ next.drop 1) :: others
        else chunk :: next :: others
      | _, _ => chunk :: next :: others

/-- The class of the text between brackets. An empty class has no members; a lone exclamation mark
has all. A hyphen right behind the exclamation mark that negates the class is a member, since no
range can start there. -/
def ofText (text : List Char) : CharClass :=
  let chunks := withoutBackwardRanges (cut (if text.head? = some '!' then 2 else 1) [] text)
  match chunks with
  | ['!'] :: next :: rest => ⟨true, ('-' :: next) :: rest⟩
  | ('!' :: first) :: rest => ⟨true, first :: rest⟩
  | _ => ⟨false, chunks⟩

end CharClass

/-- A part of a pattern. -/
inductive Glyph where
  | literal (c : Char)
  | one
  | many
  | oneOf (found : CharClass)
  deriving DecidableEq, Repr

/-- Splits after the bracket that closes a class. An exclamation mark and then a closing bracket at
the start of the class belong to it. -/
def classEnd? (text : List Char) : Option (List Char × List Char) :=
  let (mark, rest) := match text with
    | '!' :: rest => (['!'], rest)
    | rest => ([], rest)
  let (first, rest) := match rest with
    | ']' :: rest => ([']'], rest)
    | rest => ([], rest)
  let (members, rest) := Text.leading (· ≠ ']') rest
  match rest with
  | _ :: rest => some (mark ++ first ++ members, rest)
  | [] => none

/-- The parts of a pattern. Every step takes at least one character. -/
def glyphs : Nat → List Char → List Glyph
  | 0, _ => []
  | _ + 1, [] => []
  | fuel + 1, c :: rest =>
    if c = '*' then .many :: glyphs fuel rest
    else if c = '?' then .one :: glyphs fuel rest
    else if c = '[' then
      match classEnd? rest with
      | some (members, rest) => .oneOf (.ofText members) :: glyphs fuel rest
      | none => .literal '[' :: glyphs fuel rest
    else .literal c :: glyphs fuel rest

/-- A name matches the parts of a pattern. -/
def matchesGlyphs : List Glyph → List Char → Bool
  | [], name => name.isEmpty
  | .many :: rest, [] => matchesGlyphs rest []
  | .many :: rest, c :: name => matchesGlyphs rest (c :: name) || matchesGlyphs (.many :: rest) name
  | .literal expected :: rest, c :: name => c = expected && matchesGlyphs rest name
  | .one :: rest, _ :: name => matchesGlyphs rest name
  | .oneOf found :: rest, c :: name => found.contains c && matchesGlyphs rest name
  | _ :: _, [] => false
termination_by pattern name => pattern.length + name.length

/-- A name matches a pattern. -/
def matchesPattern (pattern name : String) : Bool :=
  matchesGlyphs (glyphs pattern.length pattern.toList) name.toList

/-- A pattern has a part that is no literal. -/
def hasWildcard (pattern : String) : Bool :=
  pattern.toList.any fun c => c = '*' || c = '?' || c = '['

end NodeConsole.Files
