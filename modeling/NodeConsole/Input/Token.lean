import NodeConsole.Input.Key
import NodeConsole.Text.Integer

/-!
# Keys in terminal input

A terminal sends a special key as a sequence that starts with Escape. Input is cut into tokens, the
longest known sequence first, and every token is one key.
-/

namespace NodeConsole.Input

open NodeConsole.Text

/-- The character that starts a sequence. -/
def escape : Char := '\x1b'

/-- A token: a control sequence with up to two numbers and a final character; a sequence of the
second kind; Escape and another character; Escape alone; any other character. -/
inductive Token where
  | control (first second : Option (List Char)) (final : Char)
  | application (final : Char)
  | alternate (c : Char)
  | escapeAlone
  | character (c : Char)
  deriving DecidableEq, Repr

/-- The final characters of control sequences: letters and the tilde. -/
def isFinal (c : Char) : Bool :=
  (65 ≤ c.toNat && c.toNat ≤ 90) || (97 ≤ c.toNat && c.toNat ≤ 122) || c = '~'

/-- The final characters of sequences of the second kind. -/
def isApplicationFinal (c : Char) : Bool :=
  c = 'A' || c = 'B' || c = 'C' || c = 'D' || c = 'H' || c = 'F'

/-- The control sequence that ends with the first character of a text. -/
def finalControl? (first second : Option (List Char)) : List Char → Option (Token × List Char)
  | final :: rest => if isFinal final then some (.control first second final, rest) else none
  | [] => none

/-- A control sequence whose opening bracket has been read. -/
def control? (text : List Char) : Option (Token × List Char) :=
  match leading isDecimalDigit text with
  | ([], rest) => finalControl? none none rest
  | (first, ';' :: rest) =>
    match leading isDecimalDigit rest with
    | ([], _) => none
    | (second, rest) => finalControl? (some first) (some second) rest
  | (first, rest) => finalControl? (some first) none rest

/-- The token after an Escape. -/
def escaped (text : List Char) : Token × List Char :=
  match text with
  | [] => (.escapeAlone, [])
  | c :: rest =>
    if c = escape then (.escapeAlone, text)
    else
      let sequence? :=
        if c = '[' then control? rest
        else if c = 'O' then
          match rest with
          | final :: rest =>
            if isApplicationFinal final then some (.application final, rest) else none
          | [] => none
        else none
      sequence?.getD (.alternate c, rest)

/-- The token that starts with a character, and what follows it. -/
def nextToken (c : Char) (rest : List Char) : Token × List Char :=
  if c = escape then escaped rest else (.character c, rest)

/-- The rest after a leading part is no longer than the text. -/
theorem length_leading (holds : Char → Bool) (text : List Char) :
    (leading holds text).2.length ≤ text.length :=
  (List.dropWhile_sublist _).length_le

/-- A final character takes nothing back. -/
theorem length_finalControl {first second : Option (List Char)} {text rest : List Char}
    {token : Token} (found : finalControl? first second text = some (token, rest)) :
    rest.length ≤ text.length := by
  cases text with
  | nil => simp [finalControl?] at found
  | cons final others =>
    simp only [finalControl?] at found
    split at found
    · simp only [Option.some.injEq, Prod.mk.injEq] at found
      simp [← found.2]
    · simp at found

/-- A control sequence takes nothing back. -/
theorem length_control {text rest : List Char} {token : Token}
    (found : control? text = some (token, rest)) : rest.length ≤ text.length := by
  have outer := length_leading isDecimalDigit text
  unfold control? at found
  generalize leading isDecimalDigit text = parts at found outer
  obtain ⟨first, others⟩ := parts
  split at found
  · next h =>
    cases h
    exact Nat.le_trans (length_finalControl found) outer
  · next remaining _ h =>
    cases h
    have inner := length_leading isDecimalDigit remaining
    generalize leading isDecimalDigit remaining = parts at found inner
    obtain ⟨second, last⟩ := parts
    split at found
    · simp at found
    · next h =>
      cases h
      have final := length_finalControl found
      simp only [List.length_cons] at outer inner
      omega
  · next h =>
    cases h
    exact Nat.le_trans (length_finalControl found) outer

/-- The token after an Escape takes nothing back. -/
theorem length_escaped (text : List Char) : (escaped text).2.length ≤ text.length := by
  unfold escaped
  split
  · simp
  · next c rest =>
    split
    · simp
    · simp only
      split
      · cases found : control? rest with
        | none => simp
        | some result =>
          obtain ⟨token, remaining⟩ := result
          have := length_control found
          simp only [Option.getD_some, List.length_cons]
          omega
      · split
        · split
          · split <;> simp
            omega
          · simp
        · simp

/-- A token takes at least its first character. -/
theorem length_nextToken (c : Char) (rest : List Char) :
    (nextToken c rest).2.length ≤ rest.length := by
  unfold nextToken
  split
  · exact length_escaped rest
  · simp

/-- The tokens of a text. -/
def tokens : List Char → List Token
  | [] => []
  | c :: rest =>
    have := length_nextToken c rest
    (nextToken c rest).1 :: tokens (nextToken c rest).2
termination_by text => text.length
decreasing_by simp only [List.length_cons]; omega

/-- The text of a token. -/
def Token.text : Token → List Char
  | control first second final =>
    escape :: '[' :: (first.getD [] ++ (second.map (';' :: ·)).getD [] ++ [final])
  | application final => [escape, 'O', final]
  | alternate c => [escape, c]
  | escapeAlone => [escape]
  | character c => [c]

/-- A number in a sequence has more digits than a number may have. -/
inductive TokenFault where
  | numberTooLong
  deriving DecidableEq, Repr

/-- The special key of a final character. -/
def finalKey? : Char → Option String
  | 'A' => some "up"
  | 'B' => some "down"
  | 'C' => some "right"
  | 'D' => some "left"
  | 'H' => some "home"
  | 'F' => some "end"
  | 'Z' => some "backtab"
  | _ => none

/-- The special key of the first number of a sequence that ends with a tilde. -/
def numberedKey? (number : List Char) : Option String :=
  match number with
  | ['1'] => some "home"
  | ['2'] => some "insert"
  | ['3'] => some "delete"
  | ['4'] => some "end"
  | ['5'] => some "pageup"
  | ['6'] => some "pagedown"
  | _ => none

/-- The code of keys that are not known. -/
def unknownCode : String := "unknown"

/-- The modifiers of a second number: one more than their bits. -/
def modifiersOf : Option (List Char) → Except TokenFault Modifiers
  | none => .ok {}
  | some digits =>
    match decimalMagnitude? digits with
    | some number => .ok (.ofBits ((number - 1) % 8))
    | none => .error .numberTooLong

/-- The key of a character that is sent as it is. Control characters stand for the key of the
character 96 places above, with control. -/
def characterKey (c : Char) : Key :=
  if c = '\r' ∨ c = '\n' then .plain "enter"
  else if c = '\t' then .plain "tab"
  else if c = '\x7f' ∨ c = '\x08' then .plain "backspace"
  else if c = '\x00' then ⟨" ", { control := true }⟩
  else if c.toNat < 32 then ⟨String.singleton (Char.ofNat (c.toNat + 96)), { control := true }⟩
  else .plain (String.singleton c)

/-- The key of a token. -/
def Token.key : Token → Except TokenFault Key
  | control first second final => do
    let modifiers ← modifiersOf second
    if final = '~' then pure ⟨(numberedKey? (first.getD [])).getD unknownCode, modifiers⟩
    else
      pure ⟨(finalKey? final).getD unknownCode,
        if final = 'Z' then { modifiers with shift := true } else modifiers⟩
  | application final => pure (.plain ((finalKey? final).getD unknownCode))
  | alternate c =>
    let key := characterKey c
    pure ⟨key.code, { key.modifiers with alt := true }⟩
  | escapeAlone => pure (.plain "esc")
  | character c => pure (characterKey c)

/-- The keys of a text. -/
def keys (text : List Char) : Except TokenFault (List Key) :=
  (tokens text).mapM Token.key

/-- What follows an Escape could still become a sequence. -/
def isPartial : List Char → Bool
  | [] => true
  | ['O'] => true
  | '[' :: rest => rest.all fun c => isDecimalDigit c || c = ';'
  | _ => false

/-- Splits off a sequence that the end of the text cuts short. -/
def splitPartial : List Char → List Char × List Char
  | [] => ([], [])
  | c :: rest =>
    if c = escape ∧ isPartial rest then ([], c :: rest)
    else
      let (ready, held) := splitPartial rest
      (c :: ready, held)

end NodeConsole.Input
