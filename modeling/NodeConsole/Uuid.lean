import NodeConsole.Text.Integer

/-!
# Unique identifiers

Identifiers of 128 bits. They are written as 32 digits in five groups; they are read with the
hyphens anywhere, in braces, and after the marks `urn:` and `uuid:`.
-/

namespace NodeConsole

open NodeConsole.Text

/-- An identifier. -/
structure Uuid where
  bits : BitVec 128
  deriving DecidableEq, Repr

namespace Uuid

/-- The text of an identifier. -/
def text (uuid : Uuid) : String :=
  let digits := hexDigits 32 uuid.bits.toNat
  String.ofList
    (digits.take 8 ++ '-' :: (digits.drop 8).take 4 ++ '-' :: (digits.drop 12).take 4 ++
      '-' :: (digits.drop 16).take 4 ++ '-' :: digits.drop 20)

/-- A text without the occurrences of a word, found from left to right. -/
def without (word : List Char) : Nat → List Char → List Char
  | 0, text => text
  | _ + 1, [] => []
  | fuel + 1, c :: rest =>
    if word.isPrefixOf (c :: rest) then without word fuel ((c :: rest).drop word.length)
    else c :: without word fuel rest

/-- The digits of a written identifier, once everything else is taken away. -/
def digitsOf (text : List Char) : List Char :=
  let unmarked := without "urn:".toList text.length text
  let unmarked := without "uuid:".toList unmarked.length unmarked
  (trim (fun c => c = '\x7b' || c = '\x7d') unmarked).filter (· ≠ '-')

/-- Reads an identifier. -/
def ofText? (text : List Char) : Option Uuid :=
  let digits := digitsOf text
  if digits.length = 32 then
    match hexInteger? digits with
    | some (.ofNat value) => if value < Nat.pow 2 128 then some ⟨BitVec.ofNat 128 value⟩ else none
    | _ => none
  else none

/-- The identifier that stands for none. -/
def nilText : String := "00000000-0000-0000-0000-000000000000"

end Uuid

end NodeConsole
