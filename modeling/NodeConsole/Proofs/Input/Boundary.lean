import NodeConsole.Proofs.Input.Grammar

/-!
# Where a text may be cut

Tokens are read from the front, and a token never reaches past an Escape. So a text may be cut
before an Escape, and it may be cut after a part that does not end in an unfinished sequence: the
tokens of the parts are the tokens of the whole. `tokens_append` is that fact, and
`splitPartial_append` says that what is held back may be looked for in pieces as well.
-/

namespace NodeConsole.Input

open NodeConsole.Text

/-- A text that is the start of a sequence and nothing else. -/
def IsUnfinished (text : List Char) : Prop :=
  ∃ rest, text = escape :: rest ∧ isPartial rest = true

/-- No end of a text is an unfinished sequence. -/
def IsSettled (text : List Char) : Prop :=
  (splitPartial text).2 = []

/-- Two parts of a text meet where a token ends: the first part is settled, or nothing or an Escape
follows it. -/
def Meets (front back : List Char) : Prop :=
  IsSettled front ∨ back = [] ∨ ∃ rest, back = escape :: rest

/-! ## What is held back -/

/-- The two parts of a split make up the text. -/
theorem splitPartial_parts (text : List Char) :
    (splitPartial text).1 ++ (splitPartial text).2 = text := by
  induction text with
  | nil => rfl
  | cons c rest inductionHypothesis =>
    simp only [splitPartial]
    split
    · rfl
    · simp [inductionHypothesis]

/-- What is held back is nothing or an unfinished sequence. -/
theorem splitPartial_held (text : List Char) :
    (splitPartial text).2 = [] ∨ IsUnfinished (splitPartial text).2 := by
  induction text with
  | nil => exact .inl rfl
  | cons c rest inductionHypothesis =>
    simp only [splitPartial]
    split
    · next found =>
      obtain ⟨rfl, isPartialRest⟩ := found
      exact .inr ⟨rest, rfl, isPartialRest⟩
    · exact inductionHypothesis

/-- The start of what could become a sequence could become one. -/
theorem isPartial_of_append {front back : List Char} (whole : isPartial (front ++ back) = true) :
    isPartial front = true := by
  match front with
  | [] => rfl
  | 'O' :: [] => rfl
  | 'O' :: _ :: _ => simp [isPartial] at whole
  | c :: rest =>
    by_cases bracket : c = '['
    · subst bracket
      simp only [List.cons_append, isPartial, List.all_append, Bool.and_eq_true] at whole ⊢
      exact whole.1
    · simp only [List.cons_append] at whole
      unfold isPartial at whole ⊢
      split at whole <;> simp_all

/-- What could become a sequence has no Escape in it. -/
theorem escape_notMem_of_isPartial {text : List Char} (found : isPartial text = true) :
    escape ∉ text := by
  unfold isPartial at found
  split at found
  · simp
  · decide
  · next rest =>
    intro member
    rw [List.mem_cons] at member
    rcases member with impossible | member
    · exact absurd impossible (by decide)
    · have := List.all_eq_true.mp found escape member
      exact absurd this (by decide)
  · exact absurd found (by decide)

/-- Holding back can be decided on what was held back before and what comes next: nothing that was
released is needed again. -/
theorem splitPartial_append (front back : List Char) :
    splitPartial (front ++ back) =
      ((splitPartial front).1 ++ (splitPartial ((splitPartial front).2 ++ back)).1,
        (splitPartial ((splitPartial front).2 ++ back)).2) := by
  induction front with
  | nil => rfl
  | cons c rest inductionHypothesis =>
    by_cases held : c = escape ∧ isPartial rest = true
    · have split : splitPartial (c :: rest) = ([], c :: rest) := by
        rw [splitPartial, if_pos held]
      rw [split]
      rfl
    · have open_ : ¬(c = escape ∧ isPartial (rest ++ back) = true) := fun longer =>
        held ⟨longer.1, isPartial_of_append longer.2⟩
      rw [List.cons_append, splitPartial, if_neg open_, splitPartial, if_neg held,
        inductionHypothesis]
      rfl

/-- A text is settled when it does not start an unfinished sequence and its rest is settled. -/
theorem isSettled_cons {c : Char} {rest : List Char} :
    IsSettled (c :: rest) ↔ ¬(c = escape ∧ isPartial rest = true) ∧ IsSettled rest := by
  unfold IsSettled
  by_cases held : c = escape ∧ isPartial rest = true
  · rw [splitPartial, if_pos held]
    simp [held]
  · rw [splitPartial, if_neg held]
    simp [held]

theorem IsSettled.of_append {front back : List Char} (settled : IsSettled (front ++ back)) :
    IsSettled back := by
  induction front with
  | nil => exact settled
  | cons c rest inductionHypothesis => exact inductionHypothesis (isSettled_cons.mp settled).2

/-- What is released of a text is followed either by nothing or where a token ends. -/
theorem meets_released (text more : List Char) :
    Meets (splitPartial text).1 (splitPartial ((splitPartial text).2 ++ more)).1 := by
  rcases splitPartial_held text with nothing | ⟨rest, held, -⟩
  · have whole := splitPartial_parts text
    rw [nothing, List.append_nil] at whole
    exact .inl (by rw [IsSettled, whole, nothing])
  · rw [held, List.cons_append, splitPartial]
    split
    · exact .inr (.inl rfl)
    · exact .inr (.inr ⟨_, rfl⟩)

theorem meets_held (text : List Char) : Meets (splitPartial text).1 (splitPartial text).2 := by
  rcases splitPartial_held text with nothing | ⟨rest, held, -⟩
  · exact .inr (.inl nothing)
  · exact .inr (.inr ⟨rest, held⟩)

/-! ## What a token takes -/

/-- A run of a class is read alike when more follows, unless the run could go on. -/
theorem leading_append {holds : Char → Bool} {text back : List Char}
    (stops : (leading holds text).2 ≠ [] ∨ ∃ c rest, back = c :: rest ∧ holds c = false) :
    leading holds (text ++ back) = ((leading holds text).1, (leading holds text).2 ++ back) := by
  induction text with
  | nil =>
    rcases stops with impossible | ⟨c, rest, rfl, outside⟩
    · exact absurd rfl impossible
    · simp [leading, outside]
  | cons c rest inductionHypothesis =>
    cases inside : holds c with
    | false => simp [leading, inside]
    | true =>
      simp only [leading, List.takeWhile_cons, List.dropWhile_cons, inside, if_true,
        List.cons_append, Prod.mk.injEq, List.cons.injEq, true_and] at stops inductionHypothesis ⊢
      exact inductionHypothesis stops

/-- A final character is read alike when more follows, if there is one or an Escape comes next. -/
theorem finalControl_append {first second : Option (List Char)} {text back : List Char}
    (stops : text ≠ [] ∨ ∃ rest, back = escape :: rest) :
    finalControl? first second (text ++ back) =
      (finalControl? first second text).map fun found => (found.1, found.2 ++ back) := by
  cases text with
  | nil =>
    rcases stops with impossible | ⟨rest, rfl⟩
    · exact absurd rfl impossible
    · rfl
  | cons final rest =>
    simp only [List.cons_append, finalControl?]
    split <;> rfl

/-- The characters between the bracket and the final character of a control sequence. -/
def isParameter (c : Char) : Bool :=
  isDecimalDigit c || c = ';'

theorem all_isParameter_of_leading (text : List Char) :
    (leading isDecimalDigit text).1.all isParameter = true := by
  rw [List.all_eq_true]
  intro c member
  have digits : (text.takeWhile isDecimalDigit).all isDecimalDigit = true := List.all_takeWhile
  rw [isParameter, List.all_eq_true.mp digits c member, Bool.true_or]

/-- A run of digits at the start of a text with other characters than parameters ends in it. -/
theorem leading_digits_ne_nil {text : List Char} (other : text.all isParameter = false) :
    (leading isDecimalDigit text).2 ≠ [] := by
  intro nothing
  have digits : (leading isDecimalDigit text).1 = text := by
    have parts := List.takeWhile_append_dropWhile (p := isDecimalDigit) (l := text)
    rwa [show text.dropWhile isDecimalDigit = [] from nothing, List.append_nil] at parts
  rw [← digits, all_isParameter_of_leading] at other
  exact absurd other (by decide)

/-- A run of digits is read alike when more follows, if it is not cut short or an Escape comes
next. -/
theorem leading_digits_append {text back : List Char}
    (stops : text.all isParameter = false ∨ ∃ rest, back = escape :: rest) :
    leading isDecimalDigit (text ++ back) =
      ((leading isDecimalDigit text).1, (leading isDecimalDigit text).2 ++ back) := by
  refine leading_append (stops.imp leading_digits_ne_nil ?_)
  rintro ⟨rest, rfl⟩
  exact ⟨escape, rest, rfl, by decide⟩

/-- A control sequence is read alike when more follows, if it is not cut short or an Escape comes
next. -/
theorem control_append {text back : List Char}
    (stops : text.all isParameter = false ∨ ∃ rest, back = escape :: rest) :
    control? (text ++ back) =
      (control? text).map fun found => (found.1, found.2 ++ back) := by
  have open_ := stops.imp_left leading_digits_ne_nil
  have outer := leading_digits_append stops
  rcases found : leading isDecimalDigit text with ⟨first, rest⟩
  rw [found] at open_ outer
  cases first with
  | nil =>
    rw [control_of_none outer, control_of_none found]
    exact finalControl_append open_
  | cons d digits =>
    by_cases single : rest.head? = some ';'
    · obtain ⟨more, rfl⟩ := List.head?_eq_some_iff.mp single
      -- The second number is cut short only if the whole text is.
      have innerStops : more.all isParameter = false ∨ ∃ others, back = escape :: others := by
        refine stops.imp_left fun other => ?_
        have parameters := all_isParameter_of_leading text
        rw [found] at parameters
        rw [← leading_parts found, List.all_append, parameters, Bool.true_and,
          List.all_cons] at other
        simpa [isParameter] using other
      have inner := leading_digits_append innerStops
      rcases second : leading isDecimalDigit more with ⟨number, last⟩
      rw [second] at inner
      rw [control_of_pair outer inner, control_of_pair found second]
      split
      · rfl
      · have innerOpen := innerStops.imp_left leading_digits_ne_nil
        rw [second] at innerOpen
        exact finalControl_append innerOpen
    · have longerSingle : (rest ++ back).head? ≠ some ';' := by
        cases rest with
        | nil =>
          obtain ⟨others, rfl⟩ := open_.resolve_left (fun notEmpty => notEmpty rfl)
          simp [escape]
        | cons c others => exact single
      rw [control_of_single outer longerSingle, control_of_single found single]
      exact finalControl_append open_

/-- The token after an Escape is read alike when more follows, if it is not cut short or another
Escape comes next. -/
theorem escaped_append {rest back : List Char}
    (stops : isPartial rest = false ∨ ∃ others, back = escape :: others) :
    escaped (rest ++ back) = ((escaped rest).1, (escaped rest).2 ++ back) := by
  match rest with
  | [] =>
    obtain ⟨others, rfl⟩ := stops.resolve_left (by decide)
    rfl
  | c :: more =>
    by_cases again : c = escape
    · simp [escaped, again]
    by_cases bracket : c = '['
    · subst bracket
      have sequence : control? (more ++ back) =
          (control? more).map fun found => (found.1, found.2 ++ back) := control_append stops
      simp only [List.cons_append, escaped, sequence]
      cases control? more <;> rfl
    by_cases second : c = 'O'
    · subst second
      cases more with
      | nil =>
        obtain ⟨others, rfl⟩ := stops.resolve_left (by decide)
        rfl
      | cons final more =>
        by_cases known : isApplicationFinal final = true <;> simp [escaped, known, again]
    · simp [escaped, again, bracket, second]

/-- A token is read alike when more follows, if it meets what follows where a token ends. -/
theorem nextToken_append {c : Char} {rest back : List Char}
    (stops : IsSettled (c :: rest) ∨ ∃ others, back = escape :: others) :
    nextToken c (rest ++ back) = ((nextToken c rest).1, (nextToken c rest).2 ++ back) := by
  unfold nextToken
  split
  · next found =>
    exact escaped_append (stops.imp_left fun settled => by
      simpa [found] using (isSettled_cons.mp settled).1)
  · rfl

/-! ## Tokens of the parts -/

theorem Meets.after_token {c : Char} {rest back : List Char} (meets : Meets (c :: rest) back) :
    Meets (nextToken c rest).2 back := by
  refine meets.imp_left fun settled => ?_
  have parts := (reads_nextToken c rest).2
  rw [← parts] at settled
  exact settled.of_append

/-- A text may be cut where a token ends: the tokens of the parts are the tokens of the whole. -/
theorem tokens_append {front back : List Char} (meets : Meets front back) :
    tokens (front ++ back) = tokens front ++ tokens back := by
  by_cases nothing : back = []
  · simp [nothing, tokens]
  induction front using tokens.induct with
  | case1 => simp [tokens]
  | case2 c rest _ inductionHypothesis =>
    have first := nextToken_append (meets.imp_right fun other => other.resolve_left nothing)
    rw [List.cons_append, tokens, tokens, first, inductionHypothesis meets.after_token,
      List.cons_append]

theorem keys_append {front back : List Char} (meets : Meets front back) :
    keys (front ++ back) = (do
      let first ← keys front
      let second ← keys back
      pure (first ++ second)) := by
  rw [keys, tokens_append meets, List.mapM_append]
  rfl

end NodeConsole.Input
