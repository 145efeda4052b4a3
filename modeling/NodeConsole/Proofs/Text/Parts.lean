import NodeConsole.Text.Parts

/-!
# Parts between separators

A text is split into one part more than it has separators, and no part has one. Parts that are
joined come apart again: `splitOn_joinWith`.
-/

namespace NodeConsole.Text

variable {separator : Char} {text part : List Char}

/-- There is one part more than there are separators. -/
theorem length_splitOn (separator : Char) (text : List Char) :
    (splitOn separator text).length = text.count separator + 1 := by
  induction text with
  | nil => rfl
  | cons c rest inductionHypothesis =>
    unfold splitOn
    by_cases same : c = separator
    · rw [if_pos same, List.length_cons, inductionHypothesis, same, List.count_cons_self]
    · rw [if_neg same, List.count_cons_of_ne same]
      cases parts : splitOn separator rest with
      | nil => simp [parts] at inductionHypothesis
      | cons part others => simpa [parts] using inductionHypothesis

/-- The first part starts the text. -/
theorem splitOn_cons {separator c : Char} (other : c ≠ separator) (rest : List Char) :
    ∃ part parts, splitOn separator (c :: rest) = (c :: part) :: parts := by
  unfold splitOn
  rw [if_neg other]
  cases splitOn separator rest with
  | nil => exact ⟨[], [], rfl⟩
  | cons part parts => exact ⟨part, parts, rfl⟩

/-- The parts of a text are those into which a list is split. -/
theorem splitOn_eq (separator : Char) (text : List Char) :
    splitOn separator text = text.splitOn separator := by
  induction text with
  | nil => rfl
  | cons c rest inductionHypothesis =>
    rw [splitOn, List.splitOn_cons_eq_if_modifyHead, ← inductionHypothesis]
    by_cases same : c = separator
    · simp [same]
    · rw [if_neg same, if_neg (by simpa using same)]
      cases parts : splitOn separator rest with
      | nil => exact absurd (inductionHypothesis.symm.trans parts) (List.splitOn_ne_nil _ _)
      | cons first others => rfl

/-- No part has a separator. -/
theorem not_mem_of_mem_splitOn (member : part ∈ splitOn separator text) : separator ∉ part := by
  induction text generalizing part with
  | nil =>
    obtain rfl : part = [] := List.mem_singleton.mp member
    exact List.not_mem_nil
  | cons c rest inductionHypothesis =>
    rw [splitOn] at member
    split at member
    · obtain rfl | member := List.mem_cons.mp member
      · exact List.not_mem_nil
      · exact inductionHypothesis member
    · next other =>
      cases parts : splitOn separator rest with
      | nil => exact absurd ((splitOn_eq ..).symm.trans parts) (List.splitOn_ne_nil _ _)
      | cons first others =>
        rw [parts] at member inductionHypothesis
        obtain rfl | member := List.mem_cons.mp member
        · have notFirst := inductionHypothesis (List.mem_cons_self ..)
          simp [notFirst, Ne.symm other]
        · exact inductionHypothesis (List.mem_cons_of_mem _ member)

/-- Parts without separators that are joined are split into those parts again. -/
theorem splitOn_joinWith {parts : List String} (some : parts ≠ [])
    (clean : ∀ part ∈ parts, separator ∉ part.toList) :
    splitOn separator (joinWith (String.ofList [separator]) parts).toList =
      parts.map String.toList := by
  rw [joinWith, String.toList_intercalate, String.toList_ofList, splitOn_eq,
    List.splitOn_intercalate]
  · exact List.forall_mem_map.mpr clean
  · simpa using some

/-- Joined parts start with the first one. -/
theorem exists_of_joinWith_cons (separator first : String) (parts : List String) :
    ∃ rest, (joinWith separator (first :: parts)).toList = first.toList ++ rest := by
  cases parts with
  | nil => exact ⟨[], by rw [joinWith, String.intercalate_singleton, List.append_nil]⟩
  | cons second others =>
    refine ⟨separator.toList ++ (joinWith separator (second :: others)).toList, ?_⟩
    rw [joinWith, String.intercalate_cons_cons, String.toList_append, String.toList_append,
      List.append_assoc]
    rfl

/-- Joined parts hold nothing but what is in the separator or in one of them. -/
theorem mem_joinWith {separator : String} {parts : List String} {c : Char}
    (member : c ∈ (joinWith separator parts).toList) :
    c ∈ separator.toList ∨ ∃ part ∈ parts, c ∈ part.toList := by
  unfold joinWith at member
  induction parts with
  | nil => simp at member
  | cons first others inductionHypothesis =>
    cases others with
    | nil => exact .inr ⟨first, List.mem_cons_self, by simpa using member⟩
    | cons second others =>
      rw [String.intercalate_cons_cons, String.toList_append, String.toList_append,
        List.mem_append, List.mem_append] at member
      obtain (inFirst | between) | later := member
      · exact .inr ⟨first, List.mem_cons_self, inFirst⟩
      · exact .inl between
      · obtain between | ⟨part, isPart, inPart⟩ := inductionHypothesis later
        · exact .inl between
        · exact .inr ⟨part, List.mem_cons_of_mem _ isPart, inPart⟩

/-- A text of one class is not split. -/
theorem leading_all {holds : Char → Bool} (inside : ∀ c ∈ text, holds c = true) :
    leading holds text = (text, []) := by
  have taken : (text ++ []).takeWhile holds = text ++ [].takeWhile holds :=
    List.takeWhile_append_of_pos inside
  have dropped : (text ++ []).dropWhile holds = [].dropWhile holds :=
    List.dropWhile_append_of_pos inside
  rw [List.append_nil] at taken dropped
  rw [leading, taken, dropped, List.takeWhile_nil, List.dropWhile_nil, List.append_nil]

theorem leading_stops {holds : Char → Bool} {front rest : List Char} {c : Char}
    (inside : ∀ c ∈ front, holds c = true) (outside : holds c = false) :
    leading holds (front ++ c :: rest) = (front, c :: rest) := by
  have notHolds : ¬ holds c = true := Bool.eq_false_iff.mp outside
  rw [leading, List.takeWhile_append_of_pos inside, List.dropWhile_append_of_pos inside,
    List.takeWhile_cons_of_neg notHolds, List.dropWhile_cons_of_neg notHolds, List.append_nil]

theorem leading_front {holds : Char → Bool} {front rest : List Char}
    (inside : ∀ c ∈ front, holds c = true) (ends : ∀ c ∈ rest.head?, holds c = false) :
    leading holds (front ++ rest) = (front, rest) := by
  cases rest with
  | nil => rw [List.append_nil, leading_all inside]
  | cons c others => exact leading_stops inside (ends c rfl)

/-- What is of a class can be told from what follows if that starts with a character of another
class. -/
theorem front_append_inj {holds : Char → Bool} {front other rest more : List Char}
    (inside : ∀ c ∈ front, holds c = true) (otherInside : ∀ c ∈ other, holds c = true)
    (ends : ∀ c ∈ rest.head?, holds c = false) (moreEnds : ∀ c ∈ more.head?, holds c = false)
    (same : front ++ rest = other ++ more) : front = other ∧ rest = more := by
  have split := leading_front inside ends
  rw [same, leading_front otherInside moreEnds, Prod.mk.injEq] at split
  exact ⟨split.1.symm, split.2.symm⟩

end NodeConsole.Text
