import NodeConsole.Files.Glob
import NodeConsole.Proofs.Steps
import NodeConsole.Proofs.Text.Parts

/-!
# Patterns that are accepted

Whether a pattern is accepted depends on its parts alone: there has to be one, and two stars side by
side have to be a part of their own. The tree and the directory that the pattern is taken below have
no say in it, and neither has a root in the pattern: `resolve_isOk_iff`.
-/

namespace NodeConsole

namespace Files

open NodeConsole.Text

/-! ## Names -/

/-- What can be a name in a path. -/
structure IsName (name : List Char) : Prop where
  nonempty : name ≠ []
  notDot : name ≠ ['.']
  noSlash : '/' ∉ name

namespace Path

/-- The names in a text are names. -/
theorem isName_of_mem {text : List Char} {name : String} (member : name ∈ namesOf text) :
    IsName name.toList := by
  obtain ⟨part, kept, rfl⟩ := List.mem_map.mp member
  obtain ⟨isPart, proper⟩ := List.mem_filter.mp kept
  simp only [decide_eq_true_eq] at proper
  rw [String.toList_ofList]
  exact ⟨proper.1, proper.2, not_mem_of_mem_splitOn isPart⟩

/-- The text of names without a root has those names. -/
theorem namesOf_text {names : List String} (each : ∀ name ∈ names, IsName name.toList) :
    namesOf (Path.mk "" names).text.toList = names := by
  by_cases none : names = []
  · subst none
    decide
  · have written : (Path.mk "" names).text = joinWith "/" names := by
      rw [text, if_neg (fun both => none both.2)]
      exact String.empty_append
    have split : splitOn '/' (Path.mk "" names).text.toList = names.map String.toList := by
      rw [written]
      exact splitOn_joinWith none fun name member => (each name member).noSlash
    have kept : (names.map String.toList).filter (fun name => name ≠ [] ∧ name ≠ ['.']) =
        names.map String.toList := by
      refine List.filter_eq_self.mpr (List.forall_mem_map.mpr fun name member => ?_)
      exact decide_eq_true ⟨(each name member).nonempty, (each name member).notDot⟩
    rw [namesOf, split, kept, List.map_map]
    simp

end Path

/-! ## Patterns -/

/-- A part has no two stars side by side, unless it has nothing else. -/
def IsPart (part : String) : Prop :=
  part = "**" ∨ occursIn ['*', '*'] part.toList = false

/-- A pattern has parts, and each of them can be one. -/
def IsUsable (pattern : String) : Prop :=
  Path.namesOf pattern.toList ≠ [] ∧ ∀ part ∈ Path.namesOf pattern.toList, IsPart part

instance (part : String) : Decidable (IsPart part) :=
  inferInstanceAs (Decidable (_ ∨ _))

instance (pattern : String) : Decidable (IsUsable pattern) :=
  inferInstanceAs (Decidable (_ ∧ _))

/-- A part has a selector exactly when it can be one. -/
theorem selectorOf_isOk_iff (part : String) :
    (∃ selector, Selector.of part = .ok selector) ↔ IsPart part := by
  rw [Selector.of, IsPart]
  by_cases alone : part = "**"
  · simp [alone]
  · rw [if_neg alone]
    cases occursIn ['*', '*'] part.toList with
    | true => simp [alone]
    | false =>
      rw [if_neg Bool.false_ne_true]
      split <;> simp

/-- Parts have selectors exactly when each of them can be one. -/
theorem mapM_selectorOf_isOk_iff (parts : List String) :
    (∃ found, parts.mapM Selector.of = .ok found) ↔ ∀ part ∈ parts, IsPart part := by
  induction parts with
  | nil => exact iff_of_true ⟨[], rfl⟩ nofun
  | cons part rest inductionHypothesis =>
    rw [List.mapM_cons, List.forall_mem_cons, ← inductionHypothesis, ← selectorOf_isOk_iff]
    simp only [bind_eq_ok]
    constructor
    · rintro ⟨_, selector, first, others, found, -⟩
      exact ⟨⟨selector, first⟩, others, found⟩
    · rintro ⟨⟨selector, first⟩, others, found⟩
      exact ⟨_, selector, first, others, found, rfl⟩

/-- A pattern has selectors exactly when it is usable. -/
theorem selectors_isOk_iff (pattern : String) :
    (∃ found, selectors pattern = .ok found) ↔ IsUsable pattern := by
  rw [IsUsable, ← mapM_selectorOf_isOk_iff, selectors]
  by_cases empty : pattern = ""
  · subst empty
    exact iff_of_false nofun fun usable => usable.1 rfl
  · by_cases none : Path.namesOf pattern.toList = []
    · rw [if_neg empty, if_pos none]
      exact iff_of_false nofun fun usable => usable.1 none
    · rw [if_neg empty, if_neg none, and_iff_right none]
      constructor
      · rintro ⟨found, done⟩
        obtain ⟨steps, chosen, -⟩ := bind_eq_ok.mp done
        exact ⟨steps, chosen⟩
      · rintro ⟨steps, chosen⟩
        exact ⟨_, bind_eq_ok.mpr ⟨steps, chosen, rfl⟩⟩

/-- A pattern is accepted below a directory exactly when it is usable. -/
theorem globBelow_isOk_iff (tree : Tree) (base : Path) (pattern : String) :
    (∃ reached, globBelow tree base pattern = .ok reached) ↔ IsUsable pattern := by
  rw [← selectors_isOk_iff]
  constructor
  · rintro ⟨reached, accepted⟩
    obtain ⟨found, selected, -⟩ := bind_eq_ok.mp accepted
    exact ⟨found, selected⟩
  · rintro ⟨⟨steps, directoriesOnly⟩, selected⟩
    rw [globBelow, selected]
    cases located : tree.locate base with
    | error fault => exact ⟨[], rfl⟩
    | ok place =>
      by_cases directory : tree.isDirectory place = true
      · exact ⟨_, if_pos directory⟩
      · exact ⟨_, if_neg directory⟩

/-- The files among the paths that have been reached, in order. -/
def filesAmong (tree : Tree) (reached : List Reached) : List Path :=
  ((reached.filter fun found => tree.isFile found.place).map (·.path)).mergeSort Path.le

theorem resolve_eq (tree : Tree) (base : Path) (pattern : String) :
    resolve tree base pattern =
      (if (Path.ofText pattern).isAbsolute then
        globBelow tree ⟨(Path.ofText pattern).root, []⟩
          (Path.mk "" (Path.ofText pattern).names).text
      else globBelow tree base pattern).map (filesAmong tree) := by
  rw [resolve]
  split <;> rfl

/-- A tree without files has none to select. -/
theorem eq_nil_of_resolve {tree : Tree} {base : Path} {pattern : String} {paths : List Path}
    (noFiles : ∀ place, tree.isFile place = false)
    (selected : resolve tree base pattern = .ok paths) : paths = [] := by
  rw [resolve_eq] at selected
  obtain ⟨reached, -, rfl⟩ := map_eq_ok.mp selected
  have none : reached.filter (fun found => tree.isFile found.place) = [] :=
    List.filter_eq_nil_iff.mpr fun found _ => by simp [noFiles]
  rw [filesAmong, none, List.map_nil, List.mergeSort_nil]

/-- A pattern selects files exactly when it is usable, in every tree and below every directory. -/
theorem resolve_isOk_iff (tree : Tree) (base : Path) (pattern : String) :
    (∃ paths, resolve tree base pattern = .ok paths) ↔ IsUsable pattern := by
  have names : Path.namesOf (Path.mk "" (Path.ofText pattern).names).text.toList =
      Path.namesOf pattern.toList :=
    Path.namesOf_text fun name member => Path.isName_of_mem member
  have rooted (root : Path) :
      (∃ reached, globBelow tree root (Path.mk "" (Path.ofText pattern).names).text = .ok reached) ↔
        IsUsable pattern := by
    rw [globBelow_isOk_iff, IsUsable, names, IsUsable]
  rw [resolve_eq, map_isOk_iff]
  split
  · exact rooted _
  · exact globBelow_isOk_iff tree base pattern

end Files

end NodeConsole
