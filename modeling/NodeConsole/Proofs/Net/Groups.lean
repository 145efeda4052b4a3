import Mathlib.Algebra.Group.Nat.Defs
import Mathlib.Logic.Function.Basic
import NodeConsole.Net.Network
import NodeConsole.Proofs.Net.Readback
import NodeConsole.Proofs.Net.Written
import NodeConsole.Proofs.Text.Hex

/-!
# Groups read back

The text of a version 6 address has a gap in place of a run of zeros, at either end or in between,
or no gap at all. It is read as that address in every case: `ofText?_text_of_unscoped`, which holds
for both versions. That the run is a longest one plays no part.
-/

namespace NodeConsole

open NodeConsole.Text

namespace Net.Address

/-! ## Groups -/

variable {bits : BitVec 128} {found before after : List Nat}

/-- Groups are below the number of groups that there are. -/
def AreGroups (found : List Nat) : Prop :=
  ∀ group ∈ found, group < 65536

theorem areGroups_groups (bits : BitVec 128) : AreGroups (groups bits) := by
  refine List.forall_mem_map.mpr fun place _ => ?_
  exact Nat.mod_lt _ (by decide)

theorem group?_hexText {group : Nat} (small : group < 65536) :
    group? (hexText group) = some group := by
  have short : (hexText group).length ≤ 4 :=
    (Nat.length_toDigits_le_iff (by decide) (by decide)).mpr small
  have filled : hexText group ≠ [] := Nat.toDigits_ne_nil
  simp [group?, short, filled, hexNumber?_hexText, guard]

/-- Groups are read back. -/
theorem mapM_group? (areGroups : AreGroups found) :
    (found.map hexText).mapM group? = some found := by
  induction found with
  | nil => rfl
  | cons group rest inductionHypothesis =>
    obtain ⟨first, others⟩ := List.forall_mem_cons.mp areGroups
    rw [List.map_cons, List.mapM_cons, group?_hexText first, inductionHypothesis others]
    rfl

/-- The first groups of a number write what it is without the groups after them. -/
theorem ofGroups_range {value : Nat} (below : value < 65536 ^ 8) {count : Nat} (fits : count ≤ 8) :
    ofGroups ((List.range count).map fun place => value / Nat.pow 65536 (7 - place) % 65536) =
      value / 65536 ^ (8 - count) := by
  induction count with
  | zero => exact (Nat.div_eq_of_lt below).symm
  | succ count inductionHypothesis =>
    have written := inductionHypothesis (Nat.le_of_succ_le fits)
    have power : 65536 ^ (8 - count) = 65536 ^ (7 - count) * 65536 := by
      rw [← Nat.pow_succ]
      congr 1
      omega
    have next : 8 - (count + 1) = 7 - count := by omega
    rw [ofGroups] at written
    rw [ofGroups, List.range_succ, List.map_append, List.foldl_append, written, power,
      ← Nat.div_div_eq_div_mul, next]
    exact Nat.div_add_mod _ 65536

theorem ofGroups_groups (bits : BitVec 128) : ofGroups (groups bits) = bits.toNat := by
  rw [groups, ofGroups_range (Nat.lt_of_lt_of_eq bits.isLt (by decide)) (Nat.le_refl 8)]
  exact Nat.div_one _

/-! ## The run of zeros -/

/-- A run of zeros is cut out of the groups before and after it. -/
theorem exists_of_longestZeroRun (place : Nat) (found : List Nat) :
    ∃ before after, (longestZeroRun place found).1 = place + before.length ∧
      found = before ++ List.replicate (longestZeroRun place found).2 0 ++ after := by
  induction found generalizing place with
  | nil => exact ⟨[], [], rfl, rfl⟩
  | cons group rest inductionHypothesis =>
    rw [longestZeroRun]
    split
    · refine ⟨[], (group :: rest).dropWhile (· = 0), rfl, ?_⟩
      have zeros : (group :: rest).takeWhile (· = 0) =
          List.replicate (zeroRun (group :: rest)) 0 := by
        refine List.eq_replicate_iff.mpr ⟨rfl, fun number member => ?_⟩
        simpa using List.all_eq_true.mp (List.all_takeWhile (p := (· = 0))) number member
      rw [List.nil_append, ← zeros, List.takeWhile_append_dropWhile]
    · obtain ⟨before, after, start, split⟩ := inductionHypothesis (place + 1)
      refine ⟨group :: before, after, ?_, congrArg (group :: ·) split⟩
      rw [start, List.length_cons]
      omega

/-! ## Parts between colons -/

/-- The parts that some groups are written in: a single empty one if there are none. -/
def partsOf (found : List Nat) : List (List Char) :=
  if found = [] then [[]] else found.map hexText

@[simp]
theorem partsOf_nil : partsOf [] = [[]] :=
  rfl

theorem partsOf_of_ne_nil (some : found ≠ []) : partsOf found = found.map hexText :=
  if_neg some

theorem partsOf_ne_nil (found : List Nat) : partsOf found ≠ [] := by
  cases found <;> simp [partsOf]

theorem length_partsOf (found : List Nat) : (partsOf found).length = max 1 found.length := by
  cases found with
  | nil => rfl
  | cons group rest => simp [partsOf]

theorem eq_nil_of_mem_partsOf (empty : [] ∈ partsOf found) : found = [] := by
  by_contra some
  rw [partsOf_of_ne_nil some] at empty
  obtain ⟨group, -, unwritten⟩ := List.mem_map.mp empty
  exact Nat.toDigits_ne_nil unwritten

/-- The parts hold hexadecimal digits. -/
theorem isSome_hexValue?_of_mem_partsOf {part : List Char} {c : Char}
    (isPart : part ∈ partsOf found) (member : c ∈ part) : (hexValue? c).isSome := by
  unfold partsOf at isPart
  split at isPart
  · rw [List.mem_singleton.mp isPart] at member
    cases member
  · obtain ⟨group, -, rfl⟩ := List.mem_map.mp isPart
    exact isSome_hexValue?_of_mem member

theorem colonText_eq (found : List Nat) :
    colonText found = joinWith ":" ((partsOf found).map String.ofList) := by
  cases found with
  | nil => rfl
  | cons group rest => simp [colonText, partsOf, Function.comp_def]

/-- A gap between two texts of groups is one more part, which is empty. -/
theorem colonText_gap (before after : List Nat) :
    colonText before ++ "::" ++ colonText after =
      joinWith ":" ((partsOf before ++ [] :: partsOf after).map String.ofList) := by
  have first : (partsOf before).map String.ofList ≠ [] :=
    mt List.map_eq_nil_iff.mp (partsOf_ne_nil before)
  obtain ⟨part, parts, last⟩ := List.exists_cons_of_ne_nil (partsOf_ne_nil after)
  rw [colonText_eq, colonText_eq, last, List.map_append, List.map_cons, List.map_cons, joinWith,
    joinWith, joinWith, String.intercalate_append_of_ne_nil first (List.cons_ne_nil _ _),
    List.map_cons, String.intercalate_cons_cons]
  simp [String.append_assoc, ← String.toList_inj]

/-- The parts that an address is written in: those of all its groups, or those of the groups before
and after a gap with an empty part between them. -/
inductive WrittenIn (found : List Nat) : List (List Char) → Prop where
  | whole : WrittenIn found (partsOf found)
  | gapped {before after : List Nat} (short : before.length + after.length < 7)
      (filled : found = before ++ List.replicate (8 - (before.length + after.length)) 0 ++ after) :
      WrittenIn found (partsOf before ++ [] :: partsOf after)

/-- An address is written in parts between colons. -/
theorem exists_parts (bits : BitVec 128) :
    ∃ parts, WrittenIn (groups bits) parts ∧
      groupedText bits = joinWith ":" (parts.map String.ofList) := by
  have count : (groups bits).length = 8 := by simp [groups]
  obtain ⟨before, after, begins, split⟩ := exists_of_longestZeroRun 0 (groups bits)
  unfold groupedText
  dsimp only
  generalize (longestZeroRun 0 (groups bits)).1 = start at begins ⊢
  generalize (longestZeroRun 0 (groups bits)).2 = length at split ⊢
  obtain rfl : start = before.length := by omega
  split
  · next several =>
    have lengths := congrArg List.length split
    simp only [List.length_append, List.length_replicate, count] at lengths
    obtain rfl : length = 8 - (before.length + after.length) := by omega
    refine ⟨_, .gapped (by omega) split, ?_⟩
    rw [split, ← colonText_gap]
    simp
  · exact ⟨_, .whole, colonText_eq _⟩

namespace WrittenIn

variable {parts : List (List Char)}

/-- An address is written in three to nine parts, if it has eight groups. -/
theorem length_parts (written : WrittenIn found parts) (eight : found.length = 8) :
    3 ≤ parts.length ∧ parts.length ≤ 9 := by
  cases written with
  | whole =>
    rw [length_partsOf, eight]
    decide
  | gapped short filled =>
    rw [List.length_append, List.length_cons, length_partsOf, length_partsOf]
    omega

/-- The parts of an address hold hexadecimal digits. -/
theorem isSome_hexValue? (written : WrittenIn found parts) {part : List Char} {c : Char}
    (isPart : part ∈ parts) (member : c ∈ part) : (hexValue? c).isSome := by
  cases written with
  | whole => exact isSome_hexValue?_of_mem_partsOf isPart member
  | gapped =>
    obtain inBefore | later := List.mem_append.mp isPart
    · exact isSome_hexValue?_of_mem_partsOf inBefore member
    · obtain rfl | inAfter := List.mem_cons.mp later
      · cases member
      · exact isSome_hexValue?_of_mem_partsOf inAfter member

theorem not_mem (written : WrittenIn found parts) {c : Char} (noDigit : hexValue? c = none)
    {part : List Char} (isPart : part ∈ parts) : c ∉ part := by
  intro member
  have digit := written.isSome_hexValue? isPart member
  rw [noDigit] at digit
  cases digit

end WrittenIn

/-! ## Reading parts -/

/-- Of all numbers below a bound, the only one of some kind. -/
theorem filter_range_eq_singleton {holds : Nat → Bool} {bound place : Nat} (below : place < bound)
    (here : holds place = true) (alone : ∀ other < bound, holds other = true → other = place) :
    (List.range bound).filter holds = [place] := by
  induction bound with
  | zero => exact absurd below (Nat.not_lt_zero place)
  | succ bound inductionHypothesis =>
    rw [List.range_succ, List.filter_append]
    have others : ∀ other < bound, holds other = true → other = place :=
      fun other isBelow => alone other (Nat.lt_succ_of_lt isBelow)
    obtain earlier | rfl := Nat.lt_succ_iff_lt_or_eq.mp below
    · have notLast : ¬ holds bound = true := by
        intro last
        have same := alone bound bound.lt_succ_self last
        omega
      rw [inductionHypothesis earlier others, List.filter_cons_of_neg notLast]
      rfl
    · have noOther : (List.range place).filter holds = [] := by
        refine List.filter_eq_nil_iff.mpr fun other member isOther => ?_
        have isBelow := List.mem_range.mp member
        have same := others other isBelow isOther
        omega
      rw [noOther, List.filter_cons_of_pos here]
      rfl

theorem gaps_eq_nil {parts : List (List Char)} (noEmpty : [] ∉ parts) : gaps parts = [] := by
  refine List.filter_eq_nil_iff.mpr fun place _ isGap => noEmpty ?_
  simp only [Bool.and_eq_true, decide_eq_true_eq] at isGap
  exact List.mem_of_getElem? isGap.2

/-- The gap is at the empty part between those of the groups before and after it. Where there are no
groups before or after it, there is an empty part at that end as well, which is no gap. -/
theorem gaps_eq_singleton (before after : List Nat) :
    gaps (partsOf before ++ [] :: partsOf after) = [(partsOf before).length] := by
  have countBefore := length_partsOf before
  have countAfter := length_partsOf after
  refine filter_range_eq_singleton ?_ ?_ ?_
  · rw [List.length_append, List.length_cons]
    omega
  · simp only [Bool.and_eq_true, decide_eq_true_eq, List.length_append, List.length_cons]
    refine ⟨⟨by omega, by omega⟩, ?_⟩
    rw [List.getElem?_append_right (Nat.le_refl _), Nat.sub_self, List.getElem?_cons_zero]
  · intro other _ isGap
    simp only [Bool.and_eq_true, decide_eq_true_eq, List.length_append, List.length_cons] at isGap
    obtain ⟨⟨notFirst, notLast⟩, empty⟩ := isGap
    by_contra elsewhere
    obtain earlier | later := Nat.lt_or_gt_of_ne elsewhere
    · rw [List.getElem?_append_left earlier] at empty
      obtain rfl := eq_nil_of_mem_partsOf (List.mem_of_getElem? empty)
      rw [partsOf_nil, List.length_singleton] at earlier
      omega
    · obtain ⟨place, rfl⟩ := Nat.exists_eq_add_of_lt later
      rw [List.getElem?_append_right (by omega)] at empty
      have next : (partsOf before).length + place + 1 - (partsOf before).length = place + 1 := by
        omega
      rw [next, List.getElem?_cons_succ] at empty
      obtain rfl := eq_nil_of_mem_partsOf (List.mem_of_getElem? empty)
      rw [partsOf_nil, List.length_singleton] at notLast
      omega

/-- The parts of some groups start with an empty one only if there are none. -/
theorem head?_partsOf (found : List Nat) : (partsOf found).head? = some [] ↔ found = [] := by
  constructor
  · intro first
    exact eq_nil_of_mem_partsOf (List.mem_of_head? first)
  · rintro rfl
    rfl

/-- The parts of some groups end with an empty one only if there are none. -/
theorem getLast?_partsOf (found : List Nat) : (partsOf found).getLast? = some [] ↔ found = [] := by
  constructor
  · intro last
    exact eq_nil_of_mem_partsOf (List.mem_of_getLast? last)
  · rintro rfl
    rfl

/-- The groups around a gap are read from the parts around it. -/
theorem groupsOf?_gapped (few : before.length + after.length < 8) (areBefore : AreGroups before)
    (areAfter : AreGroups after) :
    groupsOf? (partsOf before ++ [] :: partsOf after) =
      some (before ++ List.replicate (8 - (before.length + after.length)) 0 ++ after) := by
  have takes : (partsOf before ++ [] :: partsOf after).take (partsOf before).length =
      partsOf before := List.take_left
  have drops : (partsOf before ++ [] :: partsOf after).drop ((partsOf before).length + 1) =
      partsOf after := by
    rw [← List.drop_drop, List.drop_left, List.drop_succ_cons, List.drop_zero]
  have readBefore := mapM_group? areBefore
  have readAfter := mapM_group? areAfter
  rw [groupsOf?, gaps_eq_singleton]
  simp only [takes, drops, head?_partsOf, getLast?_partsOf]
  -- A single empty part at either end stands for no groups.
  by_cases noneBefore : before = []
  · subst noneBefore
    by_cases noneAfter : after = []
    · subst noneAfter
      rfl
    · rw [List.length_nil, Nat.zero_add] at few
      simp [-List.mapM_map, noneAfter, partsOf_of_ne_nil noneAfter, few, guard, readAfter]
  · by_cases noneAfter : after = []
    · subst noneAfter
      rw [List.length_nil, Nat.add_zero] at few
      simp [-List.mapM_map, noneBefore, partsOf_of_ne_nil noneBefore, few, guard, readBefore]
    · simp [-List.mapM_map, noneBefore, partsOf_of_ne_nil noneBefore, noneAfter,
        partsOf_of_ne_nil noneAfter, few, guard, readBefore, readAfter]

/-- The groups of an address are read from the parts that it is written in. -/
theorem WrittenIn.groupsOf?_eq {parts : List (List Char)} (written : WrittenIn found parts)
    (eight : found.length = 8) (areGroups : AreGroups found) : groupsOf? parts = some found := by
  cases written with
  | whole =>
    have filled : found ≠ [] := by
      rintro rfl
      cases eight
    have noEmpty : [] ∉ partsOf found := mt eq_nil_of_mem_partsOf filled
    rw [groupsOf?, gaps_eq_nil noEmpty, partsOf_of_ne_nil filled]
    simp [eight, mapM_group? areGroups, guard]
  | @gapped before after short filled =>
    have areBefore : AreGroups before := by
      intro group member
      exact areGroups group (by simp [filled, member])
    have areAfter : AreGroups after := by
      intro group member
      exact areGroups group (by simp [filled, member])
    rw [groupsOf?_gapped (Nat.lt_succ_of_lt short) areBefore areAfter, ← filled]

/-! ## The text of an address -/

/-- The text of groups holds hexadecimal digits and colons. -/
theorem mem_groupedText {c : Char} (member : c ∈ (groupedText bits).toList) :
    (hexValue? c).isSome ∨ c = ':' := by
  obtain ⟨parts, written, joined⟩ := exists_parts bits
  rw [joined] at member
  obtain colon | ⟨_, isText, inPart⟩ := mem_joinWith member
  · exact .inr (List.mem_singleton.mp colon)
  · obtain ⟨part, isPart, rfl⟩ := List.mem_map.mp isText
    rw [String.toList_ofList] at inPart
    exact .inl (written.isSome_hexValue? isPart inPart)

/-- What is neither a hexadecimal digit nor a colon is not in the text of groups. -/
theorem not_mem_groupedText {c : Char} (noDigit : hexValue? c = none) (noColon : c ≠ ':') :
    c ∉ (groupedText bits).toList := by
  intro member
  obtain digit | colon := mem_groupedText member
  · rw [noDigit] at digit
    cases digit
  · exact noColon colon

/-- The text of groups is read as their bits. -/
theorem grouped?_groupedText (bits : BitVec 128) :
    grouped? (groupedText bits).toList = some bits := by
  have eight : (groups bits).length = 8 := by simp [groups]
  obtain ⟨parts, written, joined⟩ := exists_parts bits
  obtain ⟨atLeast, atMost⟩ := written.length_parts eight
  have split : splitOn ':' (groupedText bits).toList = parts := by
    have filled : parts.map String.ofList ≠ [] := by
      rintro none
      rw [List.map_eq_nil_iff.mp none] at atLeast
      cases atLeast
    have clean : ∀ part ∈ parts.map String.ofList, ':' ∉ part.toList := by
      refine List.forall_mem_map.mpr fun part isPart => ?_
      rw [String.toList_ofList]
      exact written.not_mem (by decide) isPart
    rw [joined]
    simpa [Function.comp_def] using splitOn_joinWith filled clean
  have noPoint : '.' ∉ parts.getLast?.getD [] := by
    cases last : parts.getLast? with
    | none => exact List.not_mem_nil
    | some part => exact written.not_mem (by decide) (List.mem_of_getLast? last)
  have read : parts? (groupedText bits).toList = some parts := by
    unfold parts?
    simp [split, noPoint, atLeast, atMost, guard]
  have groupsRead := written.groupsOf?_eq eight (areGroups_groups bits)
  simp only [grouped?, read, groupsRead, ofGroups_groups, Option.bind_eq_bind, Option.bind_some,
    BitVec.ofNat_toNat, BitVec.setWidth_eq]
  rfl

/-- An address of version 6 without scope is read back. -/
theorem v6?_groupedText (bits : BitVec 128) :
    v6? (groupedText bits).toList = some (v6 bits none) := by
  have noSlash : (groupedText bits).toList.contains '/' = false := by
    have noMember : '/' ∉ (groupedText bits).toList := not_mem_groupedText (by decide) (by decide)
    simpa using noMember
  have inside : ∀ c ∈ (groupedText bits).toList, decide (c ≠ '%') = true := by
    intro c member
    refine decide_eq_true fun mark => not_mem_groupedText (c := '%') ?_ ?_ (mark ▸ member)
    · decide
    · decide
  have whole : leading (· ≠ '%') (groupedText bits).toList = ((groupedText bits).toList, []) :=
    leading_all inside
  rw [v6?]
  simp only [noSlash, whole, grouped?_groupedText, Option.bind_eq_bind, Option.bind_some]
  rfl

/-- The text of groups is no dotted one. -/
theorem v4?_groupedText (bits : BitVec 128) : v4? (groupedText bits).toList = none := by
  cases read : dotted? (groupedText bits).toList with
  | none => rw [v4?, read]; rfl
  | some dotted =>
    have points := points_of_dotted? read
    have noPoint : (groupedText bits).toList.count '.' = 0 :=
      List.count_eq_zero.mpr (not_mem_groupedText (by decide) (by decide))
    omega

/-- An address names no scope. -/
def IsUnscoped : Address → Prop
  | v4 _ => True
  | v6 _ scope => scope = none

/-- An address without scope is read back from its text. -/
theorem ofText?_text_of_unscoped {address : Address} (unscoped : address.IsUnscoped) :
    ofText? address.text.toList = some address := by
  cases address with
  | v4 bits => exact ofText?_text bits
  | v6 bits scope =>
    obtain rfl : scope = none := unscoped
    rw [ofText?, text, v4?_groupedText, v6?_groupedText]
    rfl

end Net.Address

end NodeConsole

/-!
## Addresses told apart

Two addresses have different texts, and so do two networks: `Address.text_injective`,
`Network.text_injective`. The scope of an address may be any text. It starts at the first percent
sign, since no address has one before its scope, and the length of a network starts at the last
slash, since no length has one.
-/

namespace NodeConsole.Net

open NodeConsole.Text

/-- What stands before the first separator can be told from what follows it. -/
theorem append_separator_inj {separator : Char} {front other rest more : List Char}
    (clean : separator ∉ front) (otherClean : separator ∉ other)
    (same : front ++ separator :: rest = other ++ separator :: more) :
    front = other ∧ rest = more := by
  have inside {front : List Char} (clean : separator ∉ front) :
      ∀ c ∈ front, decide (c ≠ separator) = true := by
    intro c member
    refine decide_eq_true ?_
    rintro rfl
    exact clean member
  have ends (rest : List Char) :
      ∀ c ∈ (separator :: rest).head?, decide (c ≠ separator) = false := by
    rintro _ ⟨⟩
    exact decide_eq_false (not_not.mpr rfl)
  obtain ⟨fronts, rests⟩ :=
    front_append_inj (inside clean) (inside otherClean) (ends rest) (ends more) same
  exact ⟨fronts, (List.cons.inj rests).2⟩

namespace Address

/-- An address without scope has no percent sign in its text. -/
theorem not_mem_text_of_unscoped {address : Address} (unscoped : address.IsUnscoped) :
    '%' ∉ address.text.toList := by
  cases address with
  | v4 bits =>
    have notDotted : ¬IsDotted '%' := by
      unfold IsDotted
      decide
    exact mt isDotted_of_mem notDotted
  | v6 bits scope =>
    obtain rfl : scope = none := unscoped
    rw [text]
    exact not_mem_groupedText (by decide) (by decide)

theorem toList_text_scoped (bits : BitVec 128) (scope : String) :
    (v6 bits (some scope)).text.toList = (groupedText bits).toList ++ '%' :: scope.toList := by
  rw [text, String.toList_append, String.toList_append, List.append_assoc]
  rfl

theorem eq_of_unscoped {address other : Address} (unscoped : address.IsUnscoped)
    (otherUnscoped : other.IsUnscoped) (same : address.text = other.text) : address = other := by
  have read := ofText?_text_of_unscoped unscoped
  rw [same, ofText?_text_of_unscoped otherUnscoped] at read
  exact (Option.some.inj read).symm

theorem unscoped_or_scoped (address : Address) :
    address.IsUnscoped ∨ ∃ bits scope, address = v6 bits (some scope) := by
  rcases address with _ | ⟨bits, _ | scope⟩
  · exact .inl trivial
  · exact .inl rfl
  · exact .inr ⟨bits, scope, rfl⟩

/-- Addresses differ in their texts. -/
theorem text_injective : Function.Injective text := by
  intro address other same
  obtain unscoped | ⟨bits, scope, rfl⟩ := unscoped_or_scoped address <;>
    obtain otherUnscoped | ⟨otherBits, otherScope, rfl⟩ := unscoped_or_scoped other
  · exact eq_of_unscoped unscoped otherUnscoped same
  · have noMark := not_mem_text_of_unscoped unscoped
    simp [same, toList_text_scoped] at noMark
  · have noMark := not_mem_text_of_unscoped otherUnscoped
    simp [← same, toList_text_scoped] at noMark
  · have clean (bits : BitVec 128) : '%' ∉ (groupedText bits).toList :=
      not_mem_groupedText (by decide) (by decide)
    have lists := congrArg String.toList same
    rw [toList_text_scoped, toList_text_scoped] at lists
    obtain ⟨groups, scopes⟩ := append_separator_inj (clean bits) (clean otherBits) lists
    have sameBits : v6 bits none = v6 otherBits none :=
      eq_of_unscoped rfl rfl (String.toList_injective groups)
    cases sameBits
    cases String.toList_injective scopes
    rfl

end Address

/-- Networks differ in their texts. -/
theorem Network.text_injective : Function.Injective Network.text := by
  intro network other same
  have clean (length : Nat) : '/' ∉ (decimalNat length).toList.reverse := by
    rw [List.mem_reverse]
    exact not_mem_decimalNat rfl length
  have reversed := congrArg (fun text => text.toList.reverse) same
  simp only [text, String.toList_append, List.reverse_append, List.append_assoc] at reversed
  obtain ⟨lengths, addresses⟩ :=
    append_separator_inj (clean network.length) (clean other.length) reversed
  have length := decimalNat_injective (String.toList_injective (List.reverse_inj.mp lengths))
  have address :=
    Address.text_injective (String.toList_injective (List.reverse_inj.mp addresses))
  cases network
  cases other
  cases length
  cases address
  rfl

end NodeConsole.Net
