import Mathlib.Data.List.Nodup

/-!
# Keyed lists

The applications of a model, the statuses of files, the fields of an object, the areas of a layout
and the entries of a file tree are kept in the same way: as a list with one item for each key, in
which a known key keeps its place. All are `put`, so what holds of it holds of each: the key has the
item afterwards, and every other key has what it had.
-/

namespace NodeConsole

/-- Sets the item of a key: in place if the key is known, at the end otherwise. -/
def put {Key Item : Type} [DecidableEq Key] (entries : List (Key × Item)) (key : Key)
    (item : Item) : List (Key × Item) :=
  if entries.any (·.1 = key) then
    entries.map fun entry => if entry.1 = key then (key, item) else entry
  else entries ++ [(key, item)]

section Put

variable {Key Item : Type} [DecidableEq Key] {entries : List (Key × Item)} {key : Key}

theorem ne_of_unknown (unknown : ¬entries.any (·.1 = key)) {entry : Key × Item}
    (member : entry ∈ entries) : entry.1 ≠ key := by
  intro same
  exact unknown (List.any_eq_true.mpr ⟨entry, member, decide_eq_true same⟩)

theorem key_replaced (entry : Key × Item) (item : Item) :
    (if entry.1 = key then (key, item) else entry).1 = entry.1 := by
  split
  · next same => exact same.symm
  · rfl

/-- The entries afterwards are the new one and those of the other keys. -/
theorem mem_put {item : Item} {entry : Key × Item} :
    entry ∈ put entries key item ↔ entry = (key, item) ∨ entry ∈ entries ∧ entry.1 ≠ key := by
  unfold put
  split
  · next known =>
    rw [List.mem_map]
    constructor
    · rintro ⟨old, member, rfl⟩
      split
      · exact .inl rfl
      · next other => exact .inr ⟨member, other⟩
    · rintro (rfl | ⟨member, other⟩)
      · obtain ⟨old, member, same⟩ := List.any_eq_true.mp known
        exact ⟨old, member, if_pos (of_decide_eq_true same)⟩
      · exact ⟨entry, member, if_neg other⟩
  · next unknown =>
    rw [List.mem_append, List.mem_singleton]
    constructor
    · rintro (member | rfl)
      · exact .inr ⟨member, ne_of_unknown unknown member⟩
      · exact .inl rfl
    · rintro (rfl | ⟨member, -⟩)
      · exact .inr rfl
      · exact .inl member

/-- A known key keeps its place among the keys, an unknown one comes last. -/
theorem keys_put (entries : List (Key × Item)) (key : Key) (item : Item) :
    (put entries key item).map (·.1) =
      if key ∈ entries.map (·.1) then entries.map (·.1) else entries.map (·.1) ++ [key] := by
  have known : entries.any (·.1 = key) ↔ key ∈ entries.map (·.1) := by simp
  unfold put
  by_cases member : key ∈ entries.map (·.1)
  · rw [if_pos (known.mpr member), if_pos member, List.map_map]
    exact List.map_congr_left fun entry _ => key_replaced entry item
  · rw [if_neg ((not_congr known).mpr member), if_neg member, List.map_append]
    rfl

/-- Every key keeps to one entry. -/
theorem nodup_put (distinct : (entries.map (·.1)).Nodup) (key : Key) (item : Item) :
    ((put entries key item).map (·.1)).Nodup := by
  rw [keys_put]
  split
  · exact distinct
  · next unknown =>
    rw [List.nodup_append]
    refine ⟨distinct, List.nodup_cons.mpr ⟨List.not_mem_nil, .nil⟩, ?_⟩
    rintro _ member _ (_ | ⟨_, ⟨⟩⟩) rfl
    exact unknown member

/-- The key has the item afterwards, every other key has what it had. -/
theorem find?_put (entries : List (Key × Item)) (key : Key) (item : Item) (other : Key) :
    (put entries key item).find? (·.1 = other) =
      if other = key then some (key, item) else entries.find? (·.1 = other) := by
  unfold put
  split
  · next known =>
    rw [List.find?_map]
    simp only [Function.comp_def, key_replaced]
    cases found : entries.find? (·.1 = other) with
    | none =>
      rw [Option.map_none, if_neg]
      rintro rfl
      obtain ⟨entry, member, same⟩ := List.any_eq_true.mp known
      exact List.find?_eq_none.mp found entry member same
    | some entry =>
      have same : entry.1 = other := by simpa using List.find?_some found
      rw [Option.map_some, same]
      split <;> rfl
  · next unknown =>
    rw [List.find?_append]
    by_cases same : other = key
    · have absent : entries.find? (·.1 = other) = none := by
        refine List.find?_eq_none.mpr fun entry member known => ?_
        rw [same] at known
        exact ne_of_unknown unknown member (of_decide_eq_true known)
      rw [if_pos same, absent, Option.none_or, same]
      exact List.find?_cons_of_pos (decide_eq_true rfl)
    · rw [if_neg same, List.find?_cons_of_neg, List.find?_nil, Option.or_none]
      exact fun known => same (of_decide_eq_true known).symm

/-- The entries of keys that differ are found by their keys. -/
theorem find?_of_mem (distinct : (entries.map (·.1)).Nodup) {entry : Key × Item}
    (member : entry ∈ entries) : entries.find? (·.1 = entry.1) = some entry := by
  cases found : entries.find? (·.1 = entry.1) with
  | none => exact absurd (decide_eq_true rfl) (List.find?_eq_none.mp found entry member)
  | some other =>
    have same : other.1 = entry.1 := by simpa using List.find?_some found
    rw [List.inj_on_of_nodup_map distinct (List.mem_of_find?_eq_some found) member same]

end Put

end NodeConsole
