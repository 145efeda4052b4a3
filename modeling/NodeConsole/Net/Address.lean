import NodeConsole.Text.Integer

/-!
# Internet addresses

Addresses of version 4 and 6 and their texts. A version 6 address may name a scope. Its text
shortens the first of the longest runs of two or more zero groups.
-/

namespace NodeConsole.Net

open NodeConsole.Text

/-- An address. -/
inductive Address where
  | v4 (bits : BitVec 32)
  | v6 (bits : BitVec 128) (scope : Option String)
  deriving DecidableEq, Repr

namespace Address

/-- How many bits an address has. -/
def width : Address → Nat
  | v4 _ => 32
  | v6 _ _ => 128

/-- An address of version 4. -/
def isV4 : Address → Bool
  | v4 _ => true
  | v6 _ _ => false

/-- A part of a dotted address: at most three digits, no leading zero, at most 255. -/
def octet? (part : List Char) : Option Nat := do
  guard (part ≠ [] ∧ part.all isAsciiDigit ∧ part.length ≤ 3)
  guard (part = ['0'] ∨ part.head? ≠ some '0')
  let value := ofDigits 10 (part.filterMap decimalDigit?)
  guard (value ≤ 255)
  pure value

/-- The bits of a dotted address. -/
def dotted? (text : List Char) : Option (BitVec 32) := do
  match splitOn '.' text with
  | [a, b, c, d] =>
    let a ← octet? a
    let b ← octet? b
    let c ← octet? c
    let d ← octet? d
    pure (BitVec.ofNat 32 (((a * 256 + b) * 256 + c) * 256 + d))
  | _ => none

/-- A group of one to four hexadecimal digits. -/
def group? (part : List Char) : Option Nat := do
  guard (part ≠ [] ∧ part.length ≤ 4)
  hexNumber? part

/-- The number that groups write, most significant first. -/
def ofGroups (groups : List Nat) : Nat :=
  groups.foldl (fun number group => 65536 * number + group) 0

/-- The places between the ends at which nothing stands between two colons. -/
def gaps (parts : List (List Char)) : List Nat :=
  (List.range parts.length).filter fun place =>
    0 < place && place + 1 < parts.length && parts[place]? = some []

/-- The groups of the parts of an address, a gap filled with zeros. An empty part at either end is
allowed only next to the gap. -/
def groupsOf? (parts : List (List Char)) : Option (List Nat) :=
  match gaps parts with
  | [] => do
    guard (parts.length = 8)
    parts.mapM group?
  | [gap] => do
    let before := parts.take gap
    let after := parts.drop (gap + 1)
    let before ← if before.head? = some [] then (if before.length = 1 then some [] else none)
      else some before
    let after ← if after.getLast? = some [] then (if after.length = 1 then some [] else none)
      else some after
    guard (before.length + after.length < 8)
    let before ← before.mapM group?
    let after ← after.mapM group?
    pure (before ++ List.replicate (8 - (before.length + after.length)) 0 ++ after)
  | _ => none

/-- The parts between colons; a dotted last part stands for two groups. -/
def parts? (text : List Char) : Option (List (List Char)) := do
  let parts := splitOn ':' text
  guard (3 ≤ parts.length)
  let last := parts.getLast?.getD []
  let parts ← if last.contains '.' then do
      let bits ← dotted? last
      let value := bits.toNat
      some (parts.dropLast ++ [hexText (value / 65536), hexText (value % 65536)])
    else some parts
  guard (parts.length ≤ 9)
  pure parts

/-- The bits of a version 6 address without scope. -/
def grouped? (text : List Char) : Option (BitVec 128) := do
  let parts ← parts? text
  let groups ← groupsOf? parts
  pure (BitVec.ofNat 128 (ofGroups groups))

/-- A version 4 address. -/
def v4? (text : List Char) : Option Address :=
  (dotted? text).map v4

/-- A version 6 address; a scope follows a percent sign. -/
def v6? (text : List Char) : Option Address := do
  guard (!text.contains '/')
  let (groups, marked) := leading (· ≠ '%') text
  let bits ← grouped? groups
  match marked with
  | [] => pure (v6 bits none)
  | _ :: scope =>
    guard (scope ≠ [] ∧ !scope.contains '%')
    pure (v6 bits (some (String.ofList scope)))

/-- Reads an address of either version. -/
def ofText? (text : List Char) : Option Address :=
  (v4? text).or (v6? text)

/-- The address of a number, of the version that holds it. -/
def ofInt? (number : Int) : Option Address :=
  match number with
  | .ofNat value =>
    if value < Nat.pow 2 32 then some (v4 (BitVec.ofNat 32 value))
    else if value < Nat.pow 2 128 then some (v6 (BitVec.ofNat 128 value) none)
    else none
  | .negSucc _ => none

/-- The dotted text of a version 4 address. -/
def dottedText (bits : BitVec 32) : String :=
  let value := bits.toNat
  let parts := [value / 16777216, value / 65536 % 256, value / 256 % 256, value % 256]
  joinWith "." (parts.map decimalNat)

/-- The eight groups of a version 6 address. -/
def groups (bits : BitVec 128) : List Nat :=
  (List.range 8).map fun place => bits.toNat / Nat.pow 65536 (7 - place) % 65536

/-- The length of the run of zeros that starts a list. -/
def zeroRun (found : List Nat) : Nat :=
  (found.takeWhile (· = 0)).length

/-- The start and length of the first of the longest runs of zeros, from `place` on. -/
def longestZeroRun (place : Nat) : List Nat → Nat × Nat
  | [] => (place, 0)
  | group :: rest =>
    let here := zeroRun (group :: rest)
    let later := longestZeroRun (place + 1) rest
    if later.2 ≤ here then (place, here) else later

/-- Groups between colons. -/
def colonText (found : List Nat) : String :=
  joinWith ":" (found.map fun group => String.ofList (hexText group))

/-- The text of a version 6 address without its scope. -/
def groupedText (bits : BitVec 128) : String :=
  let found := groups bits
  let (start, length) := longestZeroRun 0 found
  if 2 ≤ length then
    colonText (found.take start) ++ "::" ++ colonText (found.drop (start + length))
  else colonText found

/-- The text of an address. -/
def text : Address → String
  | v4 bits => dottedText bits
  | v6 bits none => groupedText bits
  | v6 bits (some scope) => groupedText bits ++ "%" ++ scope

end Address

end NodeConsole.Net
