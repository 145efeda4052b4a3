import Mathlib.Data.List.Forall2
import NodeConsole.Proofs.Input.Preference
import NodeConsole.Text.Printable

/-!
# Keys and the text they are sent as

A text is read as keys token by token, one key for each: `keys_tokenize` says which tokens these are
and what key each of them means. A terminal sends every key as a text of its own, and what it sends
for some keys, one after another, is read as those keys. Only an Escape needs care, since a
character after it would be taken with it.
-/

namespace NodeConsole.Input

open NodeConsole.Text

/-! ## What tokens mean -/

/-- The modifiers that the second number of a control sequence stands for: the bits of one less than
it, the highest ones left out. None if there is no number, or if it is zero. -/
def modifierBits : Option (List Char) → Nat
  | none => 0
  | some digits => (numberOf digits - 1) % 8

/-- The key that a token means. -/
def Token.Means : Token → Key → Prop
  | control first second final, key =>
    key.code = (if final = '~' then numberedKey? (first.getD []) else finalKey? final).getD
      unknownCode ∧
    key.modifiers.toBits = modifierBits second ||| (if final = 'Z' then 1 else 0)
  | application final, key => finalKey? final = some key.code ∧ key.modifiers = {}
  | alternate c, key =>
    key.code = (characterKey c).code ∧
      key.modifiers = { (characterKey c).modifiers with alt := true }
  | escapeAlone, key => key = .plain "esc"
  | character c, key => key = characterKey c

theorem toBits_ofBits {bits : Nat} (low : bits < 8) :
    (Modifiers.ofBits bits).toBits = bits ∧
      Modifiers.toBits { Modifiers.ofBits bits with shift := true } = bits ||| 1 := by
  have all : ∀ bits : Fin 8, (Modifiers.ofBits bits).toBits = bits ∧
      Modifiers.toBits { Modifiers.ofBits bits with shift := true } = bits ||| 1 := by
    decide
  exact all ⟨bits, low⟩

/-- The modifiers of a number that can be read are those that it stands for. -/
theorem modifiersOf_eq {second : Option (List Char)} {modifiers : Modifiers}
    (number : ∀ digits ∈ second, IsNumber digits) (read : modifiersOf second = .ok modifiers) :
    modifiers = .ofBits (modifierBits second) := by
  cases second with
  | none =>
    cases read
    rfl
  | some digits =>
    rw [modifiersOf, decimalMagnitude_eq (number digits rfl)] at read
    by_cases short : digits.length ≤ decimalDigitLimit
    · rw [if_pos short] at read
      exact (Except.ok.inj read).symm
    · rw [if_neg short] at read
      cases read

/-- The key of a control sequence, once its modifiers are read. -/
theorem control_key_eq {first second : Option (List Char)} {final : Char} {modifiers : Modifiers}
    (read : modifiersOf second = .ok modifiers) :
    (Token.control first second final).key = .ok
      ⟨(if final = '~' then numberedKey? (first.getD []) else finalKey? final).getD unknownCode,
        if final = 'Z' then { modifiers with shift := true } else modifiers⟩ := by
  rw [Token.key, read]
  by_cases tilde : final = '~'
  · subst tilde
    rfl
  · rw [if_neg tilde]
    exact if_neg tilde

/-- The key of a grammatical token is the one that it means. -/
theorem means_of_key {token : Token} (grammatical : token.IsGrammatical) {key : Key}
    (read : token.key = .ok key) : token.Means key := by
  cases token with
  | control first second final =>
    obtain ⟨modifiers, known⟩ := control_key_isOk.mp ⟨key, read⟩
    obtain rfl := modifiersOf_eq grammatical.2.1 known
    rw [control_key_eq known] at read
    cases read
    have low : modifierBits second < 8 := by
      unfold modifierBits
      split <;> omega
    refine ⟨rfl, ?_⟩
    by_cases backward : final = 'Z'
    · simp only [if_pos backward]
      exact (toBits_ofBits low).2
    · simp only [if_neg backward, Nat.or_zero]
      exact (toBits_ofBits low).1
  | application final =>
    cases read
    have known : isApplicationFinal final = true := grammatical
    simp only [isApplicationFinal, Bool.or_eq_true, decide_eq_true_eq] at known
    rcases known with ((((rfl | rfl) | rfl) | rfl) | rfl) | rfl <;> exact ⟨rfl, rfl⟩
  | alternate c =>
    cases read
    exact ⟨rfl, rfl⟩
  | escapeAlone =>
    cases read
    rfl
  | character c =>
    cases read
    rfl

/-- A pass over a list gives one result for each item, in order. -/
theorem mapM_eq_ok {α β ε : Type} {read : α → Except ε β} {items : List α} {results : List β} :
    items.mapM read = .ok results ↔
      List.Forall₂ (fun item result => read item = .ok result) items results := by
  induction items generalizing results with
  | nil => simp [pure, Except.pure, eq_comm]
  | cons item rest inductionHypothesis =>
    rw [List.mapM_cons, List.forall₂_cons_left_iff]
    simp only [← inductionHypothesis]
    cases read item with
    | error fault => simp [bind, Except.bind]
    | ok result =>
      cases rest.mapM read with
      | error fault => simp [bind, Except.bind]
      | ok more => simp [bind, Except.bind, pure, Except.pure, eq_comm]

/-! ## How keys are sent -/

/-- The digit that stands for modifiers: one more than their bits. -/
def modifierDigit (modifiers : Modifiers) : Char :=
  Char.ofNat (49 + modifiers.toBits)

/-- The letters that do not give another key with Control: those that give Backspace, Tab and twice
Enter are left out. -/
def controlLetters : List Char := "abcdefgklnopqrstuvwxyz".toList

/-- The keys that a control character of their own stands for. -/
def editingKeys : List (Char × String) :=
  [('\r', "enter"), ('\n', "enter"), ('\t', "tab"), ('\x7f', "backspace"), ('\x08', "backspace")]

/-- How a terminal sends a key: a special key by its final character or its number, alone or with
modifiers; any other key by a character. Backward Tab always has Shift. -/
inductive Sends : Key → List Char → Prop where
  | special {final : Char} {name : String} (named : finalKey? final = some name) :
      Sends ⟨name, { shift := final = 'Z' }⟩ [escape, '[', final]
  | application {final : Char} {name : String} (second : isApplicationFinal final = true)
      (named : finalKey? final = some name) : Sends (.plain name) [escape, 'O', final]
  | modified {final : Char} {name : String} {modifiers : Modifiers}
      (named : finalKey? final = some name) (backward : final = 'Z' → modifiers.shift = true) :
      Sends ⟨name, modifiers⟩ [escape, '[', '1', ';', modifierDigit modifiers, final]
  | numbered {number : Char} {name : String} (named : numberedKey? [number] = some name) :
      Sends (.plain name) [escape, '[', number, '~']
  | numberedModified {number : Char} {name : String} {modifiers : Modifiers}
      (named : numberedKey? [number] = some name) :
      Sends ⟨name, modifiers⟩ [escape, '[', number, ';', modifierDigit modifiers, '~']
  | printable {c : Char} (visible : isPrintable c = true) : Sends (.plain (String.singleton c)) [c]
  | letter {c : Char} (own : c ∈ controlLetters) :
      Sends ⟨String.singleton c, { control := true }⟩ [Char.ofNat (c.toNat - 96)]
  | editing {c : Char} {name : String} (known : (c, name) ∈ editingKeys) : Sends (.plain name) [c]

/-- What a terminal sends for keys, one after another. An Escape is sent as itself, and told apart
only where nothing or another Escape follows. -/
inductive SendsAll : List Key → List Char → Prop where
  | nothing : SendsAll [] []
  | key {key : Key} {pressed : List Key} {text more : List Char} (sends : Sends key text)
      (follow : SendsAll pressed more) : SendsAll (key :: pressed) (text ++ more)
  | alone {pressed : List Key} {more : List Char} (follow : SendsAll pressed more)
      (apart : more = [] ∨ more.head? = some escape) :
      SendsAll (.plain "esc" :: pressed) (escape :: more)

/-! ## Reading what is sent -/

/-- The final character of a special key ends a control sequence, but not one with a number for the
key. -/
theorem isFinal_of_finalKey {final : Char} {name : String} (named : finalKey? final = some name) :
    isFinal final = true ∧ final ≠ '~' := by
  unfold finalKey? at named
  split at named <;> first | exact ⟨by decide, by decide⟩ | cases named

/-- The number of a special key is a digit. -/
theorem isNumber_of_numberedKey {number : Char} {name : String}
    (named : numberedKey? [number] = some name) : IsNumber [number] := by
  refine ⟨List.cons_ne_nil _ _, ?_⟩
  unfold numberedKey? at named
  split at named
  case h_7 => cases named
  all_goals
    next same =>
    cases same
    decide

theorem modifierDigit_reads (modifiers : Modifiers) :
    IsNumber [modifierDigit modifiers] ∧
      modifiersOf (some [modifierDigit modifiers]) = .ok modifiers := by
  obtain ⟨shift, alt, control⟩ := modifiers
  refine ⟨⟨List.cons_ne_nil _ _, ?_⟩, ?_⟩
  · cases shift <;> cases alt <;> cases control <;> decide
  · cases shift <;> cases alt <;> cases control <;> rfl

/-- A printable character is the key of that character. -/
theorem characterKey_of_printable {c : Char} (visible : isPrintable c = true) :
    c ≠ escape ∧ characterKey c = .plain (String.singleton c) := by
  have ranges : ∀ range ∈ printableRanges, 32 ≤ range.1 ∧ (range.2 < 127 ∨ 127 < range.1) := by
    decide +kernel
  obtain ⟨range, member, inside⟩ := List.any_eq_true.mp visible
  have bounds := ranges range member
  simp only [Bool.and_eq_true, decide_eq_true_eq] at inside
  have ne (control : Char) (outside : control.toNat < 32 ∨ control.toNat = 127) : c ≠ control := by
    rintro rfl
    omega
  have noControl : ¬c.toNat < 32 := by omega
  refine ⟨ne _ (by decide), ?_⟩
  simp [characterKey, ne '\r' (by decide), ne '\n' (by decide), ne '\t' (by decide),
    ne '\x7f' (by decide), ne '\x08' (by decide), ne '\x00' (by decide), noControl]

/-- What is sent for a key is one token, whatever follows, and the key of that token is the key. -/
theorem exists_token_of_sends {key : Key} {text : List Char} (sends : Sends key text)
    (rest : List Char) :
    ∃ token : Token, token.Leads rest (text ++ rest) ∧ token.key = .ok key := by
  cases sends with
  | @special final name named =>
    obtain ⟨known, noTilde⟩ := isFinal_of_finalKey named
    have grammatical : (Token.control none none final).IsGrammatical :=
      ⟨by simp, by simp, fun _ => rfl, known⟩
    refine ⟨.control none none final, leads_control grammatical rest, ?_⟩
    rw [control_key_eq rfl, if_neg noTilde, named]
    by_cases backward : final = 'Z'
    · simp [backward]
    · simp [backward]
  | @application final name second named =>
    refine ⟨.application final, leads_application second rest, ?_⟩
    rw [Token.key, named]
    rfl
  | @modified final name modifiers named backward =>
    obtain ⟨known, noTilde⟩ := isFinal_of_finalKey named
    obtain ⟨number, read⟩ := modifierDigit_reads modifiers
    have one : IsNumber ['1'] := ⟨List.cons_ne_nil _ _, by decide⟩
    have grammatical :
        (Token.control (some ['1']) (some [modifierDigit modifiers]) final).IsGrammatical :=
      ⟨by simpa using one, by simpa using number, by simp, known⟩
    refine ⟨_, leads_control grammatical rest, ?_⟩
    rw [control_key_eq read, if_neg noTilde, named, Option.getD_some]
    by_cases isBackward : final = 'Z'
    · rw [if_pos isBackward, ← backward isBackward]
    · rw [if_neg isBackward]
  | @numbered number name named =>
    have grammatical : (Token.control (some [number]) none '~').IsGrammatical :=
      ⟨by simpa using isNumber_of_numberedKey named, by simp, by simp, by decide⟩
    refine ⟨_, leads_control grammatical rest, ?_⟩
    rw [control_key_eq rfl, if_pos rfl, Option.getD_some, named]
    rfl
  | @numberedModified number name modifiers named =>
    obtain ⟨isNumber, read⟩ := modifierDigit_reads modifiers
    have grammatical :
        (Token.control (some [number]) (some [modifierDigit modifiers]) '~').IsGrammatical :=
      ⟨by simpa using isNumber_of_numberedKey named, by simpa using isNumber, by simp,
        by decide⟩
    refine ⟨_, leads_control grammatical rest, ?_⟩
    rw [control_key_eq read, if_pos rfl, Option.getD_some, named]
    rfl
  | @printable c visible =>
    obtain ⟨other, own⟩ := characterKey_of_printable visible
    exact ⟨.character c, leads_character other rest, congrArg Except.ok own⟩
  | @letter c own =>
    -- A test of the listed letters, so that it is not decided over all characters there are.
    have letters : controlLetters.all (fun c => Char.ofNat (c.toNat - 96) ≠ escape ∧
        characterKey (Char.ofNat (c.toNat - 96)) = ⟨String.singleton c, { control := true }⟩) =
          true := by
      decide
    obtain ⟨other, same⟩ := of_decide_eq_true (List.all_eq_true.mp letters c own)
    exact ⟨.character _, leads_character other rest, congrArg Except.ok same⟩
  | @editing c name known =>
    have keys : ∀ entry ∈ editingKeys, entry.1 ≠ escape ∧
        characterKey entry.1 = .plain entry.2 := by
      decide
    obtain ⟨other, same⟩ := keys _ known
    exact ⟨.character c, leads_character other rest, congrArg Except.ok same⟩

/-- What is sent for keys is read as those keys. -/
theorem keys_of_sendsAll {pressed : List Key} {text : List Char} (sends : SendsAll pressed text) :
    keys text = .ok pressed := by
  unfold keys
  rw [mapM_eq_ok]
  induction sends with
  | nothing =>
    rw [tokens]
    exact .nil
  | key sends _ inductionHypothesis =>
    obtain ⟨token, leads, read⟩ := exists_token_of_sends sends _
    rw [tokens_of_leads leads]
    exact .cons read inductionHypothesis
  | alone _ apart inductionHypothesis =>
    rw [tokens_of_leads (leads_escapeAlone apart)]
    exact .cons rfl inductionHypothesis

/-- Every text is cut into tokens in one way: consecutive parts of it that are not empty, each the
preferred one at its place. The text is read as one key for each of them, in order, the key that the
token means, unless one of them has a number of too many digits. What a terminal sends for keys is
read as those keys. -/
theorem keys_tokenize (text : List Char) :
    ∃ found, Tokenizes text found ∧ (∀ other, Tokenizes text other → other = found) ∧
      found.flatMap Token.text = text ∧ (∀ token ∈ found, token.text ≠ []) ∧
      ((∃ pressed, keys text = .ok pressed) ↔ ∀ token ∈ found, token.IsWithinLimit) ∧
      (∀ pressed, keys text = .ok pressed → List.Forall₂ Token.Means found pressed) ∧
      ∀ pressed, SendsAll pressed text → keys text = .ok pressed := by
  have cut := tokenizes_tokens text
  refine ⟨tokens text, cut, fun other otherCut => tokenizes_iff.mp otherCut, cut.texts,
    fun token _ => token.text_ne_nil, keys_isOk, fun pressed read => ?_,
    fun pressed => keys_of_sendsAll⟩
  have each := (List.forall₂_and_left (tokens text) pressed).mpr
    ⟨fun token member => isGrammatical_of_mem_tokens member, mapM_eq_ok.mp read⟩
  exact each.imp fun token key known => means_of_key known.1 known.2

end NodeConsole.Input
