import NodeConsole.Input.Token

/-!
# The grammar of terminal input

Every token is read from its own text: `reads_nextToken` says so for one token, and that what a
token holds is what its kind of sequence may hold. A grammatical token gives a key unless its
number has more digits than a number may have, so `keys_isOk` tells when a text can be read.
-/

namespace NodeConsole.Input

open NodeConsole.Text

/-! ## Tokens and their texts -/

/-- The digits of a number in a control sequence. -/
def IsNumber (digits : List Char) : Prop :=
  digits ≠ [] ∧ digits.all isDecimalDigit = true

/-- What a token may hold: numbers are runs of digits, the second only after the first; final
characters end their kind of sequence; Escape stands only at the start. -/
def Token.IsGrammatical : Token → Prop
  | control first second final =>
    (∀ digits ∈ first, IsNumber digits) ∧ (∀ digits ∈ second, IsNumber digits) ∧
      (first = none → second = none) ∧ isFinal final = true
  | application final => isApplicationFinal final = true
  | alternate c => c ≠ escape
  | escapeAlone => True
  | character c => c ≠ escape

/-- A token is grammatical, and its text and a rest make up a text. -/
def Token.Reads (token : Token) (rest text : List Char) : Prop :=
  token.IsGrammatical ∧ token.text ++ rest = text

/-- A final character gives the control sequence of the numbers before it. -/
theorem reads_finalControl {first second : Option (List Char)} {text rest : List Char}
    {token : Token} (found : finalControl? first second text = some (token, rest))
    (firstNumber : ∀ digits ∈ first, IsNumber digits)
    (secondNumber : ∀ digits ∈ second, IsNumber digits) (order : first = none → second = none) :
    token.Reads rest
      (escape :: '[' :: (first.getD [] ++ (second.map (';' :: ·)).getD [] ++ text)) := by
  cases text with
  | nil => simp [finalControl?] at found
  | cons final others =>
    simp only [finalControl?] at found
    split at found
    · next known =>
      simp only [Option.some.injEq, Prod.mk.injEq] at found
      obtain ⟨rfl, rfl⟩ := found
      exact ⟨⟨firstNumber, secondNumber, order, known⟩, by simp [Token.text]⟩
    · simp at found

theorem isNumber_leading {text digits rest : List Char} {d : Char}
    (found : leading isDecimalDigit text = (d :: digits, rest)) : IsNumber (d :: digits) := by
  refine ⟨List.cons_ne_nil d digits, ?_⟩
  rw [← show (leading isDecimalDigit text).1 = d :: digits by rw [found]]
  exact List.all_takeWhile

theorem leading_parts {holds : Char → Bool} {text run rest : List Char}
    (found : leading holds text = (run, rest)) : run ++ rest = text := by
  have parts := List.takeWhile_append_dropWhile (p := holds) (l := text)
  rw [leading, Prod.mk.injEq] at found
  rwa [found.1, found.2] at parts

theorem control_of_none {text rest : List Char} (outer : leading isDecimalDigit text = ([], rest)) :
    control? text = finalControl? none none rest := by
  rw [control?, outer]

/-- A control sequence with one number. -/
theorem control_of_single {text digits rest : List Char} {d : Char}
    (outer : leading isDecimalDigit text = (d :: digits, rest)) (single : rest.head? ≠ some ';') :
    control? text = finalControl? (some (d :: digits)) none rest := by
  rw [control?, outer]
  cases rest with
  | nil => rfl
  | cons c others =>
    have other : c ≠ ';' := fun separator => single (by rw [separator, List.head?_cons])
    simp [other]

theorem control_of_pair {text digits others second rest : List Char} {d : Char}
    (outer : leading isDecimalDigit text = (d :: digits, ';' :: others))
    (inner : leading isDecimalDigit others = (second, rest)) :
    control? text =
      if second = [] then none else finalControl? (some (d :: digits)) (some second) rest := by
  rw [control?, outer]
  simp only [inner]
  cases second <;> rfl

/-- A control sequence is the token of the text it was read from. -/
theorem reads_control {text rest : List Char} {token : Token}
    (found : control? text = some (token, rest)) : token.Reads rest (escape :: '[' :: text) := by
  rcases outer : leading isDecimalDigit text with ⟨first, others⟩
  have outerParts := leading_parts outer
  cases first with
  | nil =>
    rw [control_of_none outer] at found
    subst outerParts
    exact reads_finalControl found (by simp) (by simp) fun _ => rfl
  | cons d digits =>
    by_cases single : others.head? = some ';'
    · obtain ⟨more, rfl⟩ := List.head?_eq_some_iff.mp single
      rcases inner : leading isDecimalDigit more with ⟨second, last⟩
      have innerParts := leading_parts inner
      rw [control_of_pair outer inner] at found
      cases second with
      | nil => simp at found
      | cons e others =>
        have read := reads_finalControl (by simpa using found)
          (by simpa using isNumber_leading outer) (by simpa using isNumber_leading inner) (by simp)
        simpa [← outerParts, ← innerParts] using read
    · rw [control_of_single outer single] at found
      have read := reads_finalControl found (by simpa using isNumber_leading outer) (by simp)
        (by simp)
      simpa [← outerParts] using read

/-- The token after an Escape is the token of the text with the Escape. -/
theorem reads_escaped (text : List Char) :
    (escaped text).1.Reads (escaped text).2 (escape :: text) := by
  match text with
  | [] => exact ⟨trivial, rfl⟩
  | c :: rest =>
    by_cases again : c = escape
    · simp [escaped, again, Token.Reads, Token.IsGrammatical, Token.text]
    have alternate : (Token.alternate c).Reads rest (escape :: c :: rest) := ⟨again, rfl⟩
    by_cases bracket : c = '['
    · subst bracket
      rcases sequence : control? rest with _ | ⟨token, others⟩
      · simpa [escaped, again, sequence] using alternate
      · simpa [escaped, again, sequence] using reads_control sequence
    by_cases second : c = 'O'
    · subst second
      cases rest with
      | nil => simpa [escaped, again] using alternate
      | cons final others =>
        by_cases known : isApplicationFinal final = true
        · simp [escaped, again, known, Token.Reads, Token.IsGrammatical, Token.text]
        · simpa [escaped, again, known] using alternate
    · simpa [escaped, again, bracket, second] using alternate

/-- A token is the token of the text it was read from. -/
theorem reads_nextToken (c : Char) (rest : List Char) :
    (nextToken c rest).1.Reads (nextToken c rest).2 (c :: rest) := by
  unfold nextToken
  split
  · next found =>
    subst found
    exact reads_escaped rest
  · next other => exact ⟨other, rfl⟩

/-- All tokens of a text are grammatical. -/
theorem isGrammatical_of_mem_tokens {text : List Char} {token : Token}
    (member : token ∈ tokens text) : token.IsGrammatical := by
  induction text using tokens.induct with
  | case1 => simp [tokens] at member
  | case2 c rest _ inductionHypothesis =>
    rw [tokens, List.mem_cons] at member
    rcases member with rfl | member
    · exact (reads_nextToken c rest).1
    · exact inductionHypothesis member

/-! ## Keys -/

/-- A number that is short enough for its value to be computed. -/
def Token.IsWithinLimit : Token → Prop
  | control _ second _ => ∀ digits ∈ second, digits.length ≤ decimalDigitLimit
  | _ => True

instance : DecidablePred Token.IsWithinLimit
  | .control _ second _ =>
    inferInstanceAs (Decidable (∀ digits ∈ second, digits.length ≤ decimalDigitLimit))
  | .application _ | .alternate _ | .escapeAlone | .character _ => inferInstanceAs (Decidable True)

/-- The value of a decimal digit. -/
def digitValue (c : Char) : Nat :=
  (decimalDigit? c).getD 0

/-- The number that decimal digits write. -/
def numberOf (digits : List Char) : Nat :=
  ofDigits 10 (digits.map digitValue)

/-- A run of decimal digits is read digit by digit. -/
theorem digitRun_eq {digits : List Char} (number : IsNumber digits) :
    digitRun? decimalDigit? digits = some (digits.map digitValue) := by
  obtain ⟨notEmpty, all⟩ := number
  induction digits with
  | nil => exact absurd rfl notEmpty
  | cons d rest inductionHypothesis =>
    rw [List.all_cons, Bool.and_eq_true] at all
    obtain ⟨value, isValue⟩ := Option.isSome_iff_exists.mp all.1
    cases rest with
    | nil => simp [digitRun?, digitValue, isValue]
    | cons e others =>
      have read := inductionHypothesis (List.cons_ne_nil e others) all.2
      have plain : e ≠ '_' := by
        rintro rfl
        exact absurd (List.all_eq_true.mp all.2 '_' List.mem_cons_self) (by decide)
      simp [digitRun?, digitValue, isValue, read, plain]

theorem decimalMagnitude_eq {digits : List Char} (number : IsNumber digits) :
    decimalMagnitude? digits =
      if digits.length ≤ decimalDigitLimit then some (numberOf digits) else none := by
  rw [decimalMagnitude?, digitRun_eq number, ← List.length_map digitValue]
  change (if (digits.map digitValue).length ≤ decimalDigitLimit then some () else none) >>= _ = _
  split <;> rfl

/-- The modifiers of a number are known exactly when it is short enough. -/
theorem modifiersOf_isOk {digits : List Char} (number : IsNumber digits) :
    (∃ modifiers, modifiersOf (some digits) = .ok modifiers) ↔
      digits.length ≤ decimalDigitLimit := by
  rw [modifiersOf, decimalMagnitude_eq number]
  by_cases short : digits.length ≤ decimalDigitLimit
  · rw [if_pos short]
    exact iff_of_true ⟨_, rfl⟩ short
  · rw [if_neg short]
    exact iff_of_false (by rintro ⟨_, ⟨⟩⟩) short

/-- A control sequence gives a key exactly when its modifiers are known. -/
theorem control_key_isOk {first second : Option (List Char)} {final : Char} :
    (∃ key, (Token.control first second final).key = .ok key) ↔
      ∃ modifiers, modifiersOf second = .ok modifiers := by
  rw [Token.key]
  cases modifiersOf second with
  | error fault => simp [bind, Except.bind]
  | ok modifiers =>
    refine ⟨fun _ => ⟨modifiers, rfl⟩, fun _ => ?_⟩
    by_cases tilde : final = '~'
    · exact ⟨_, if_pos tilde⟩
    · exact ⟨_, if_neg tilde⟩

/-- A grammatical token gives a key exactly when its number is within the limit. -/
theorem key_isOk {token : Token} (grammatical : token.IsGrammatical) :
    (∃ key, token.key = .ok key) ↔ token.IsWithinLimit := by
  cases token with
  | control first second final =>
    rw [control_key_isOk]
    cases second with
    | none => simp [Token.IsWithinLimit, modifiersOf]
    | some digits =>
      rw [modifiersOf_isOk (grammatical.2.1 digits rfl)]
      simp [Token.IsWithinLimit]
  | application final => exact ⟨fun _ => trivial, fun _ => ⟨_, rfl⟩⟩
  | alternate c => exact ⟨fun _ => trivial, fun _ => ⟨_, rfl⟩⟩
  | escapeAlone => exact ⟨fun _ => trivial, fun _ => ⟨_, rfl⟩⟩
  | character c => exact ⟨fun _ => trivial, fun _ => ⟨_, rfl⟩⟩

/-- A pass over a list succeeds exactly when it succeeds at every item. -/
theorem mapM_isOk {α β ε : Type} (read : α → Except ε β) (items : List α) :
    (∃ results, items.mapM read = .ok results) ↔
      ∀ item ∈ items, ∃ result, read item = .ok result := by
  induction items with
  | nil => simp [pure, Except.pure]
  | cons item rest inductionHypothesis =>
    rw [List.forall_mem_cons, ← inductionHypothesis, List.mapM_cons]
    cases read item with
    | error fault => simp [bind, Except.bind]
    | ok result => cases rest.mapM read <;> simp [bind, Except.bind, pure, Except.pure]

/-- A text gives keys exactly when all numbers of its tokens are within the limit. -/
theorem keys_isOk {text : List Char} :
    (∃ found, keys text = .ok found) ↔ ∀ token ∈ tokens text, token.IsWithinLimit := by
  rw [keys, mapM_isOk]
  exact forall₂_congr fun _ member => key_isOk (isGrammatical_of_mem_tokens member)

end NodeConsole.Input
