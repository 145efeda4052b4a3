import NodeConsole.Proofs.Input.Grammar
import NodeConsole.Proofs.Text.Parts

/-!
# The preferred token

Several tokens may be read at the start of a text that begins with an Escape. The kinds of tokens
have an order of preference, and the token taken is the one whose kind comes first:
`nextToken_leads`. So the tokens of a text are the only way to cut it into tokens each of which is
the preferred one at its place: `tokenizes_iff`.
-/

namespace NodeConsole.Input

open NodeConsole.Text

/-! ## The order of preference -/

/-- The place of a kind of token in the order of preference. -/
def Token.place : Token → Nat
  | control .. => 0
  | application _ => 1
  | alternate _ => 2
  | escapeAlone => 3
  | character _ => 4

/-- A token leads a text: the text is read as the token and a rest, and the token comes before every
other one that the text could be read as. -/
structure Token.Leads (token : Token) (rest text : List Char) : Prop where
  reads : token.Reads rest text
  preferred : ∀ other others, other.Reads others text → other = token ∨ token.place < other.place

/-- Tokens that make up a text, each of them leading what is left of it. -/
inductive Tokenizes : List Char → List Token → Prop where
  | nothing : Tokenizes [] []
  | token {token : Token} {rest text : List Char} {more : List Token}
      (leads : token.Leads rest text) (follow : Tokenizes rest more) :
      Tokenizes text (token :: more)

theorem Token.text_ne_nil (token : Token) : token.text ≠ [] := by
  cases token <;> exact List.cons_ne_nil _ _

/-! ## Control sequences -/

/-- The final character of a control sequence is no digit: the ASCII digits come before it, those of
other scripts after it. -/
theorem isDecimalDigit_of_isFinal {c : Char} (final : isFinal c = true) :
    isDecimalDigit c = false := by
  have early : 65 ≤ c.toNat ∧ c.toNat < 0x660 := by
    simp only [isFinal, Bool.or_eq_true, Bool.and_eq_true, decide_eq_true_eq] at final
    rcases final with (upper | lower) | rfl
    · omega
    · omega
    · decide
  have zeros : ∀ first ∈ digitZeros, first + 10 ≤ 65 ∨ 0x660 ≤ first := by decide
  have noBlock :
      digitZeros.find? (fun first => first ≤ c.toNat && c.toNat < first + 10) = none := by
    refine List.find?_eq_none.mpr fun first member => ?_
    have apart := zeros first member
    simp only [Bool.and_eq_true, decide_eq_true_eq, not_and]
    omega
  rw [isDecimalDigit, decimalDigit?, noBlock]
  rfl

theorem ne_separator_of_isFinal {c : Char} (final : isFinal c = true) : c ≠ ';' := by
  rintro rfl
  exact absurd final (by decide)

theorem leading_of_isNumber {digits : List Char} {c : Char} (number : IsNumber digits)
    (rest : List Char) (stops : isDecimalDigit c = false) :
    leading isDecimalDigit (digits ++ c :: rest) = (digits, c :: rest) :=
  leading_stops (List.all_eq_true.mp number.2) stops

/-- A control sequence that is grammatical is read from its text. -/
theorem control_of_isGrammatical {first second : Option (List Char)} {final : Char}
    (grammatical : (Token.control first second final).IsGrammatical) (rest : List Char) :
    control? (first.getD [] ++ ((second.map (';' :: ·)).getD [] ++ final :: rest)) =
      some (.control first second final, rest) := by
  obtain ⟨firstNumber, secondNumber, order, isFinal⟩ := grammatical
  have noDigit := isDecimalDigit_of_isFinal isFinal
  have ends (first second : Option (List Char)) :
      finalControl? first second (final :: rest) = some (.control first second final, rest) := by
    rw [finalControl?, if_pos isFinal]
  cases first with
  | none =>
    obtain rfl := order rfl
    have none : leading isDecimalDigit (final :: rest) = ([], final :: rest) := by
      simp [leading, noDigit]
    exact (control_of_none none).trans (ends _ _)
  | some digits =>
    have number := firstNumber digits rfl
    obtain ⟨d, others, rfl⟩ := List.exists_cons_of_ne_nil number.1
    cases second with
    | none =>
      have single : (final :: rest).head? ≠ some ';' := by
        simpa using ne_separator_of_isFinal isFinal
      exact (control_of_single (leading_of_isNumber number rest noDigit) single).trans (ends _ _)
    | some more =>
      have secondOne := secondNumber more rfl
      have separated : isDecimalDigit ';' = false := by decide
      have outer := leading_of_isNumber number (more ++ final :: rest) separated
      have inner := leading_of_isNumber secondOne rest noDigit
      exact (control_of_pair outer inner).trans ((if_neg secondOne.1).trans (ends _ _))

/-- What is read as a control sequence is one. -/
theorem place_control {text rest : List Char} {token : Token}
    (found : control? text = some (token, rest)) : token.place = 0 := by
  have final (first second : Option (List Char)) (text : List Char)
      (found : finalControl? first second text = some (token, rest)) : token.place = 0 := by
    cases text with
    | nil => cases found
    | cons final others =>
      rw [finalControl?, Option.ite_none_right_eq_some] at found
      obtain ⟨-, ⟨⟩⟩ := found
      rfl
  unfold control? at found
  split at found
  · exact final _ _ _ found
  · split at found
    · cases found
    · exact final _ _ _ found
  · exact final _ _ _ found

/-! ## The token after an Escape -/

/-- A control sequence is the token of a text that can be read as one. -/
theorem escaped_of_control {first second : Option (List Char)} {final : Char}
    {rest text : List Char}
    (reads : (Token.control first second final).Reads rest (escape :: text)) :
    escaped text = (.control first second final, rest) := by
  obtain ⟨grammatical, whole⟩ := reads
  obtain rfl :
      text = '[' :: (first.getD [] ++ ((second.map (';' :: ·)).getD [] ++ final :: rest)) := by
    simpa [Token.text] using whole.symm
  have sequence := control_of_isGrammatical grammatical rest
  simp [escaped, sequence, show '[' ≠ escape by decide]

theorem escaped_of_application {final : Char} {rest text : List Char}
    (reads : (Token.application final).Reads rest (escape :: text)) :
    escaped text = (.application final, rest) := by
  obtain ⟨grammatical, whole⟩ := reads
  obtain rfl : text = 'O' :: final :: rest := by simpa [Token.text] using whole.symm
  have known : isApplicationFinal final = true := grammatical
  simp [escaped, known, show 'O' ≠ escape by decide]

/-- An Escape is taken together with any other character after it, which starts a sequence or stands
for itself. -/
theorem escaped_of_ne {c : Char} (other : c ≠ escape) (rest : List Char) :
    (escaped (c :: rest)).1 = .alternate c ∨ (escaped (c :: rest)).1.place < 2 := by
  by_cases bracket : c = '['
  · subst bracket
    cases sequence : control? rest with
    | none => exact .inl (by simp [escaped, other, sequence])
    | some found =>
      refine .inr ?_
      have place : found.1.place = 0 := place_control sequence
      simp [escaped, other, sequence, place]
  · by_cases second : c = 'O'
    · subst second
      cases rest with
      | nil => exact .inl rfl
      | cons final others =>
        by_cases known : isApplicationFinal final = true
        · exact .inr (by simp [escaped, other, known, Token.place])
        · exact .inl (by simp [escaped, other, known])
    · exact .inl (by simp [escaped, other, bracket, second])

/-- An Escape is the token of a text only if no sequence and no character can be taken with it. -/
theorem place_escaped (text : List Char) :
    (escaped text).1 = .escapeAlone ∨ (escaped text).1.place < 3 := by
  cases text with
  | nil => exact .inl rfl
  | cons c rest =>
    by_cases again : c = escape
    · exact .inl (by simp [escaped, again])
    · refine .inr ?_
      rcases escaped_of_ne again rest with taken | early
      · rw [taken]
        exact Nat.lt_succ_self 2
      · omega

/-- The token after an Escape is the preferred one. -/
theorem escaped_preferred {text others : List Char} {other : Token}
    (reads : other.Reads others (escape :: text)) :
    other = (escaped text).1 ∨ (escaped text).1.place < other.place := by
  cases other with
  | control first second final => exact .inl (by rw [escaped_of_control reads])
  | application final => exact .inl (by rw [escaped_of_application reads])
  | alternate c =>
    obtain ⟨noEscape, whole⟩ := reads
    obtain rfl : text = c :: others := by simpa [Token.text] using whole.symm
    exact (escaped_of_ne noEscape others).imp Eq.symm id
  | escapeAlone => exact (place_escaped text).imp Eq.symm id
  | character c =>
    obtain ⟨noEscape, whole⟩ := reads
    exact absurd (List.cons.inj whole).1 noEscape

/-! ## Tokens of a text -/

/-- The token that is taken leads the text. -/
theorem nextToken_leads (c : Char) (rest : List Char) :
    (nextToken c rest).1.Leads (nextToken c rest).2 (c :: rest) where
  reads := reads_nextToken c rest
  preferred other others reads := by
    unfold nextToken
    split
    · next found =>
      subst found
      exact escaped_preferred reads
    · next noEscape =>
      -- Every other kind of token starts with an Escape.
      have first := congrArg List.head? reads.2
      cases other with
      | character d =>
        obtain rfl : d = c := Option.some.inj first
        exact .inl rfl
      | control first second final => exact absurd (Option.some.inj first).symm noEscape
      | application final => exact absurd (Option.some.inj first).symm noEscape
      | alternate d => exact absurd (Option.some.inj first).symm noEscape
      | escapeAlone => exact absurd (Option.some.inj first).symm noEscape

theorem leads_of_nextToken {c : Char} {text rest : List Char} {token : Token}
    (taken : nextToken c text = (token, rest)) : token.Leads rest (c :: text) := by
  have leads := nextToken_leads c text
  rwa [taken] at leads

theorem leads_control {first second : Option (List Char)} {final : Char}
    (grammatical : (Token.control first second final).IsGrammatical) (rest : List Char) :
    (Token.control first second final).Leads rest
      ((Token.control first second final).text ++ rest) :=
  leads_of_nextToken ((if_pos rfl).trans (escaped_of_control ⟨grammatical, rfl⟩))

theorem leads_application {final : Char} (known : isApplicationFinal final = true)
    (rest : List Char) : (Token.application final).Leads rest (escape :: 'O' :: final :: rest) :=
  leads_of_nextToken ((if_pos rfl).trans (escaped_of_application ⟨known, rfl⟩))

theorem leads_character {c : Char} (other : c ≠ escape) (rest : List Char) :
    (Token.character c).Leads rest (c :: rest) :=
  leads_of_nextToken (if_neg other)

/-- An Escape leads a text in which nothing or another Escape follows it. -/
theorem leads_escapeAlone {rest : List Char} (apart : rest = [] ∨ rest.head? = some escape) :
    Token.escapeAlone.Leads rest (escape :: rest) := by
  refine leads_of_nextToken ((if_pos rfl).trans ?_)
  rcases apart with rfl | again
  · rfl
  · obtain ⟨others, rfl⟩ := List.head?_eq_some_iff.mp again
    simp [escaped]

/-- At most one token leads a text. -/
theorem Token.Leads.unique {token other : Token} {rest others text : List Char}
    (leads : token.Leads rest text) (otherLeads : other.Leads others text) :
    token = other ∧ rest = others := by
  have same : token = other := by
    rcases leads.preferred other others otherLeads.reads with same | before
    · exact same.symm
    · rcases otherLeads.preferred token rest leads.reads with same | after
      · exact same
      · omega
  subst same
  exact ⟨rfl, List.append_cancel_left (leads.reads.2.trans otherLeads.reads.2.symm)⟩

/-- The tokens of a text make it up. -/
theorem tokenizes_tokens (text : List Char) : Tokenizes text (tokens text) := by
  induction text using tokens.induct with
  | case1 =>
    rw [tokens]
    exact .nothing
  | case2 c rest _ inductionHypothesis =>
    rw [tokens]
    exact .token (nextToken_leads c rest) inductionHypothesis

/-- There is no other way to cut a text into leading tokens. -/
theorem tokenizes_iff {text : List Char} {found : List Token} :
    Tokenizes text found ↔ found = tokens text := by
  refine ⟨fun cut => ?_, fun same => same ▸ tokenizes_tokens text⟩
  induction cut with
  | nothing => rw [tokens]
  | @token token rest text more leads _ inductionHypothesis =>
    cases text with
    | nil => exact absurd (List.append_eq_nil_iff.mp leads.reads.2).1 token.text_ne_nil
    | cons c others =>
      obtain ⟨same, sameRest⟩ := leads.unique (nextToken_leads c others)
      rw [tokens, inductionHypothesis, same, sameRest]

theorem tokens_of_leads {token : Token} {rest text : List Char} (leads : token.Leads rest text) :
    tokens text = token :: tokens rest :=
  (tokenizes_iff.mp (.token leads (tokenizes_tokens rest))).symm

/-- The texts of the tokens of a text are consecutive parts of it. -/
theorem Tokenizes.texts {text : List Char} {found : List Token} (cut : Tokenizes text found) :
    found.flatMap Token.text = text := by
  induction cut with
  | nothing => rfl
  | token leads _ inductionHypothesis =>
    rw [List.flatMap_cons, inductionHypothesis]
    exact leads.reads.2

end NodeConsole.Input
