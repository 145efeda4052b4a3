/-!
# UTF-8 as an automaton

A byte stream is decoded one byte at a time. The state between two bytes says what the character
that has been started still needs, so a stream may be cut anywhere. Ill-formed input is reported in
pieces, each as long as the start of some well-formed character, or one byte if it starts none; a
half of a surrogate pair is reported byte by byte.
-/

namespace NodeConsole.Text.Utf8

/-- Why a piece of input is no character. -/
inductive Malformation where
  | invalidStart
  | invalidContinuation
  | endOfData
  deriving DecidableEq, Repr

/-- What decoding yields: a character, or a piece of `size` bytes, the first being `byte`, that is
none. -/
inductive Item where
  | char (c : Char)
  | malformed (byte : UInt8) (size : Nat) (cause : Malformation)
  deriving DecidableEq, Repr

/-- The started character. `tail first code size low high owed`: after `size` bytes, the first being
`first`, with the payload bits `code`, the next byte must lie between `low` and `high`, and `owed`
more continuation bytes follow it. `surrogate second`: the first two bytes of half a pair. -/
inductive State where
  | start
  | tail (first : UInt8) (code size low high owed : Nat)
  | surrogate (second : UInt8)
  deriving DecidableEq, Repr

/-- Reads a byte where a character starts. -/
def startWith (byte : UInt8) : State × List Item :=
  let value := byte.toNat
  if value < 0x80 then (.start, [.char (Char.ofNat value)])
  else if value < 0xc2 then (.start, [.malformed byte 1 .invalidStart])
  else if value < 0xe0 then (.tail byte (value - 0xc0) 1 0x80 0xbf 0, [])
  else if value = 0xe0 then (.tail byte 0 1 0xa0 0xbf 1, [])
  else if value < 0xf0 then (.tail byte (value - 0xe0) 1 0x80 0xbf 1, [])
  else if value = 0xf0 then (.tail byte 0 1 0x90 0xbf 2, [])
  else if value < 0xf4 then (.tail byte (value - 0xf0) 1 0x80 0xbf 2, [])
  else if value = 0xf4 then (.tail byte 4 1 0x80 0x8f 2, [])
  else (.start, [.malformed byte 1 .invalidStart])

/-- The first byte of a half of a surrogate pair. -/
def surrogateLead : UInt8 := 0xed

/-- Reads one byte. -/
def step (state : State) (byte : UInt8) : State × List Item :=
  match state with
  | .start => startWith byte
  | .tail first code size low high owed =>
    let value := byte.toNat
    if low ≤ value ∧ value ≤ high then
      if first = surrogateLead ∧ size = 1 ∧ 0xa0 ≤ value then (.surrogate byte, [])
      else
        let code := 64 * code + (value - 0x80)
        match owed with
        | 0 => (.start, [.char (Char.ofNat code)])
        | owed + 1 => (.tail first code (size + 1) 0x80 0xbf owed, [])
    else
      let (next, items) := startWith byte
      (next, .malformed first size .invalidContinuation :: items)
  | .surrogate second =>
    let (next, items) := startWith byte
    (next, .malformed surrogateLead 1 .invalidContinuation ::
      .malformed second 1 .invalidStart :: items)

/-- Reads bytes one after another. -/
def run (state : State) : List UInt8 → State × List Item
  | [] => (state, [])
  | byte :: rest =>
    let (next, items) := step state byte
    let (last, more) := run next rest
    (last, items ++ more)

/-- What is left to report when the input ends in a state. -/
def finish : State → List Item
  | .start => []
  | .tail first _ size _ _ _ => [.malformed first size .endOfData]
  | .surrogate second =>
    [.malformed surrogateLead 1 .invalidContinuation, .malformed second 1 .invalidStart]

/-- The items of a complete input. -/
def items (bytes : List UInt8) : List Item :=
  let (last, read) := run .start bytes
  read ++ finish last

/-- The mark that stands for an ill-formed piece. -/
def replacement : Char := '\uFFFD'

/-- An item as a character. -/
def Item.shown : Item → Char
  | .char c => c
  | .malformed .. => replacement

/-- Decodes a complete input, with one mark for each ill-formed piece. -/
def decodeReplacing (bytes : List UInt8) : List Char :=
  (items bytes).map Item.shown

/-- The first ill-formed piece of an input: where it starts, and the piece. -/
structure Fault where
  position : Nat
  byte : UInt8
  size : Nat
  cause : Malformation
  deriving DecidableEq, Repr

/-- The characters of items, if no item is ill-formed. `position` counts the bytes before. -/
def wellFormed (position : Nat) : List Item → Except Fault (List Char)
  | [] => .ok []
  | .char c :: rest => (wellFormed (position + c.utf8Size) rest).map (c :: ·)
  | .malformed byte size cause :: _ => .error ⟨position, byte, size, cause⟩

/-- Decodes a complete input that must be well-formed. -/
def decode (bytes : List UInt8) : Except Fault (List Char) :=
  wellFormed 0 (items bytes)

/-- The continuation byte that carries the lowest six bits of `code` above `shift`. -/
def continuation (code shift : Nat) : UInt8 :=
  UInt8.ofNat (0x80 + code / Nat.pow 2 shift % 64)

/-- The bytes of one character. -/
def encodeChar (c : Char) : List UInt8 :=
  let code := c.toNat
  if code < 0x80 then [UInt8.ofNat code]
  else if code < 0x800 then [UInt8.ofNat (0xc0 + code / 64), continuation code 0]
  else if code < 0x10000 then
    [UInt8.ofNat (0xe0 + code / 4096), continuation code 6, continuation code 0]
  else
    [UInt8.ofNat (0xf0 + code / 262144), continuation code 12, continuation code 6,
      continuation code 0]

/-- The bytes of a text. -/
def encode (text : List Char) : List UInt8 :=
  text.flatMap encodeChar

/-- Bytes read in two parts are read as one. -/
theorem run_append (state : State) (front back : List UInt8) :
    run state (front ++ back) =
      ((run (run state front).1 back).1,
        (run state front).2 ++ (run (run state front).1 back).2) := by
  induction front generalizing state with
  | nil => simp [run]
  | cons byte rest inductionHypothesis => simp [run, inductionHypothesis, List.append_assoc]

end NodeConsole.Text.Utf8
