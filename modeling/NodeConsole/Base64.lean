/-!
# Base64

Bytes as letters of the standard alphabet, four for each three bytes. Reading is strict: no other
character is allowed, padding stands only at the end, and the last group must be complete.
-/

namespace NodeConsole.Base64

/-- The value of a letter of the alphabet. -/
def letterValue? (c : Char) : Option Nat :=
  let code := c.toNat
  if 65 ≤ code ∧ code ≤ 90 then some (code - 65)
  else if 97 ≤ code ∧ code ≤ 122 then some (code - 71)
  else if 48 ≤ code ∧ code ≤ 57 then some (code + 4)
  else if c = '+' then some 62
  else if c = '/' then some 63
  else none

/-- The letter of a value below 64. -/
def letter (value : Nat) : Char :=
  if value < 26 then Char.ofNat (value + 65)
  else if value < 52 then Char.ofNat (value + 71)
  else if value < 62 then Char.ofNat (value - 4)
  else if value = 62 then '+'
  else '/'

/-- The letters of the last bytes, padded to a group of four. -/
def encode : List UInt8 → List Char
  | [] => []
  | [a] => [letter (a.toNat / 4), letter (a.toNat % 4 * 16), '=', '=']
  | [a, b] =>
    [letter (a.toNat / 4), letter (a.toNat % 4 * 16 + b.toNat / 16), letter (b.toNat % 16 * 4), '=']
  | a :: b :: c :: rest =>
    letter (a.toNat / 4) :: letter (a.toNat % 4 * 16 + b.toNat / 16) ::
      letter (b.toNat % 16 * 4 + c.toNat / 64) :: letter (c.toNat % 64) :: encode rest

/-- Where reading stands: how many letters of the current group are read, the bits of the last one
that no byte has taken, how many paddings the group has, and whether any padding was seen. -/
structure State where
  place : Nat
  carried : Nat
  paddings : Nat
  padded : Bool
  deriving DecidableEq, Repr

/-- At the start of a group. -/
def State.start : State := ⟨0, 0, 0, false⟩

/-- The byte that a letter completes, if any, and the state after it. -/
def State.take (state : State) (value : Nat) : Option UInt8 × State :=
  match state.place with
  | 0 => (none, ⟨1, value, 0, state.padded⟩)
  | 1 => (some (UInt8.ofNat (state.carried * 4 + value / 16)), ⟨2, value % 16, 0, state.padded⟩)
  | 2 => (some (UInt8.ofNat (state.carried * 16 + value / 4)), ⟨3, value % 4, 0, state.padded⟩)
  | _ => (some (UInt8.ofNat (state.carried * 64 + value)), ⟨0, 0, 0, state.padded⟩)

/-- Reads the rest of a text. -/
def decodeFrom (state : State) : List Char → Option (List UInt8)
  | [] => if state.place = 0 then some [] else none
  | c :: rest =>
    if c = '=' then
      if 2 ≤ state.place then
        if 4 ≤ state.place + (state.paddings + 1) then
          if rest = [] then some [] else none
        else decodeFrom ⟨state.place, state.carried, state.paddings + 1, true⟩ rest
      else decodeFrom ⟨state.place, state.carried, state.paddings, true⟩ rest
    else
      match letterValue? c with
      | none => none
      | some value =>
        if state.padded then none
        else
          let (byte, next) := state.take value
          (decodeFrom next rest).map (byte.toList ++ ·)

/-- The bytes of a text. -/
def decode (text : List Char) : Option (List UInt8) :=
  match text with
  | '=' :: _ => none
  | _ => decodeFrom .start text

end NodeConsole.Base64
