import Mathlib.Data.List.Rotate
import NodeConsole.Proofs.Form.Focus

/-!
# Rounds of the focus

A tracker keeps its focus as a place in a list of views. Moving on goes round: it comes to the views
in the order `onward`, those after the one that has the focus, those before it and that one again
(`IsSound.told_next`). Moving back is moving on in a tracker with its views in reverse
(`IsSound.told_prev`), and a move back takes a move on back (`IsSound.stride_back`).
-/

namespace NodeConsole.Form.FocusTracker

variable {tracker : FocusTracker} {id : String}

/-! ## Sound trackers -/

/-- The views are distinct, and the place of the focus is that of a view. -/
structure IsSound (tracker : FocusTracker) : Prop where
  distinct : tracker.ids.Nodup
  placed : tracker.IsPlaced

/-- A view that is there is found at a place. -/
theorem exists_idxOf? {ids : List String} (member : id ∈ ids) :
    ∃ index, ids.idxOf? id = some index ∧ ids[index]? = some id := by
  obtain ⟨index, found⟩ := Option.isSome_iff_exists.mp (List.isSome_idxOf?.mpr member)
  obtain ⟨inRange, same, -⟩ := List.idxOf?_eq_some_iff.mp found
  refine ⟨index, found, ?_⟩
  rw [List.getElem?_eq_getElem inRange]
  exact congrArg some (by simpa using same)

theorem focused?_of_index {index : Nat} (here : tracker.index = some index) :
    tracker.focused? = tracker.ids[index]? := by
  rw [focused?, here, Option.bind_some]

/-- Without a view that has the focus there is no place of the focus. -/
theorem IsPlaced.index_eq_none (placed : tracker.IsPlaced) (unfocused : tracker.focused? = none) :
    tracker.index = none := by
  cases here : tracker.index with
  | none => rfl
  | some index =>
    rw [focused?_of_index here, List.getElem?_eq_none_iff] at unfocused
    exact absurd (placed index here) (by omega)

/-- Trackers with the same views and the same focus are the same. -/
theorem IsSound.eq_of_focused? {other : FocusTracker} (sound : tracker.IsSound)
    (placed : other.IsPlaced) (ids : other.ids = tracker.ids)
    (focused : other.focused? = tracker.focused?) : other = tracker := by
  obtain ⟨otherIds, otherIndex⟩ := other
  obtain rfl : otherIds = tracker.ids := ids
  suffices same : otherIndex = tracker.index by rw [same]
  cases here : tracker.index with
  | none =>
    have unfocused : tracker.focused? = none := by rw [FocusTracker.focused?, here]; rfl
    exact placed.index_eq_none (focused.trans unfocused)
  | some index =>
    have inRange := sound.placed index here
    rw [focused?_of_index here, List.getElem?_eq_getElem inRange] at focused
    obtain ⟨otherPlace, otherHere, found⟩ := Option.bind_eq_some_iff.mp focused
    obtain ⟨otherInRange, same⟩ := List.getElem?_eq_some_iff.mp found
    rw [show otherIndex = some otherPlace from otherHere]
    exact congrArg some ((sound.distinct.getElem_inj_iff).mp same)

theorem ids_add (tracker : FocusTracker) (id : String) :
    (tracker.add id).ids = if id ∈ tracker.ids then tracker.ids else tracker.ids ++ [id] := by
  by_cases known : id ∈ tracker.ids <;> simp [add, known]

/-- The focus stays when a view is added. -/
theorem focused?_add (placed : tracker.IsPlaced) (id : String) :
    (tracker.add id).focused? = tracker.focused? := by
  unfold add
  split
  · rfl
  · cases here : tracker.index with
    | none => simp only [focused?, here, Option.bind_none]
    | some index =>
      simp only [focused?, here, Option.bind_some]
      exact List.getElem?_append_left (placed index here)

/-- A view that is removed loses the focus; any other keeps it. -/
theorem focused?_remove (tracker : FocusTracker) (id : String) :
    (tracker.remove id).focused? =
      if tracker.focused? = some id then none else tracker.focused? := by
  unfold remove
  split
  · cases focused : tracker.focused? with
    | none => simp [FocusTracker.focused?]
    | some other =>
      by_cases same : other = id
      · simp [FocusTracker.focused?, same]
      · have left : other ∈ tracker.ids.erase id :=
          (List.mem_erase_of_ne same).mpr (mem_of_focused? focused)
        obtain ⟨index, found, there⟩ := exists_idxOf? left
        simp [FocusTracker.focused?, same, found, there]
  · next absent =>
    rw [if_neg]
    intro focused
    exact absent (by simpa using mem_of_focused? focused)

namespace IsSound

/-- A new view leaves a tracker sound. -/
theorem add (sound : tracker.IsSound) (id : String) : (tracker.add id).IsSound := by
  unfold FocusTracker.add
  split
  · exact sound
  · next absent =>
    refine ⟨?_, fun index here => ?_⟩
    · rw [List.nodup_append]
      refine ⟨sound.distinct, List.nodup_singleton id, ?_⟩
      rintro other member _ (_ | ⟨_, ⟨⟩⟩) rfl
      exact absent (by simpa using member)
    · have inRange := sound.placed index here
      simp only [List.length_append, List.length_singleton]
      omega

/-- A view that is removed leaves a tracker sound. -/
theorem remove (sound : tracker.IsSound) (id : String) : (tracker.remove id).IsSound := by
  unfold FocusTracker.remove
  split
  · refine ⟨sound.distinct.erase id, fun index here => ?_⟩
    dsimp only at here ⊢
    split at here
    · split at here
      · exact nomatch here
      · exact (List.idxOf?_eq_some_iff.mp here).1
    · exact nomatch here
  · exact sound

end IsSound

/-! ## Rounds -/

/-- What a step tells when it is taken a number of times. -/
def told (step : FocusTracker → FocusTracker × Option String) :
    Nat → FocusTracker → List (Option String)
  | 0, _ => []
  | count + 1, tracker => (step tracker).2 :: told step count (step tracker).1

theorem length_told (step : FocusTracker → FocusTracker × Option String) (count : Nat)
    (tracker : FocusTracker) : (told step count tracker).length = count := by
  induction count generalizing tracker with
  | zero => rfl
  | succ count inductionHypothesis => rw [told, List.length_cons, inductionHypothesis]

/-- The place behind the focus; without focus, the first one. -/
def following (tracker : FocusTracker) : Nat :=
  match tracker.index with
  | none => 0
  | some index => index + 1

/-- The views in the order in which moving on comes to them: those after the one that has the focus,
those before it, and at last that one again; without focus, all of them. -/
def onward (ids : List String) : Option String → List String
  | none => ids
  | some id => (ids.dropWhile (· ≠ id)).tail ++ ids.takeWhile (· ≠ id) ++ [id]

theorem isPlaced_moveTo {index : Nat} (inRange : index < tracker.ids.length) :
    (tracker.moveTo index).1.IsPlaced := by
  rintro _ ⟨⟩
  exact inRange

/-- Moving on leads to the place behind the focus, or round to the first one. -/
theorem next_eq_moveTo (views : tracker.ids ≠ []) :
    tracker.next = tracker.moveTo (tracker.following % tracker.ids.length) := by
  unfold next following
  rw [if_neg views]
  cases tracker.index with
  | none => exact congrArg tracker.moveTo (Nat.zero_mod _).symm
  | some index => rfl

theorem IsPlaced.next (placed : tracker.IsPlaced) : tracker.next.1.IsPlaced := by
  by_cases views : tracker.ids = []
  · rwa [FocusTracker.next, if_pos views]
  · rw [next_eq_moveTo views]
    exact isPlaced_moveTo (Nat.mod_lt _ (List.length_pos_iff.mpr views))

/-- Moving on comes to one place after the other, round and round. -/
theorem told_next_places (views : tracker.ids ≠ []) (count : Nat) :
    told next count tracker = (List.range count).map fun later =>
      tracker.ids[(tracker.following + later) % tracker.ids.length]? := by
  induction count generalizing tracker with
  | zero => rfl
  | succ count inductionHypothesis =>
    have rest :=
      @inductionHypothesis (tracker.moveTo (tracker.following % tracker.ids.length)).1 views
    rw [told, next_eq_moveTo views, rest, List.range_succ_eq_map, List.map_cons, List.map_map]
    refine congrArg₂ _ rfl (List.map_congr_left fun later _ => ?_)
    have further : (tracker.following % tracker.ids.length + 1 + later) % tracker.ids.length =
        (tracker.following + (later + 1)) % tracker.ids.length := by
      rw [Nat.add_assoc, Nat.mod_add_mod, Nat.add_comm 1 later]
    exact congrArg (tracker.ids[·]?) further

/-- The order of moving on, in terms of the views before and after the one that has the focus. -/
theorem onward_split {before after : List String} (absent : id ∉ before) :
    onward (before ++ id :: after) (some id) = after ++ before ++ [id] := by
  have others : ∀ other ∈ before, decide (other ≠ id) = true := by
    intro other member
    rw [decide_eq_true_iff]
    rintro rfl
    exact absent member
  rw [onward, List.dropWhile_append_of_pos others, List.takeWhile_append_of_pos others,
    List.dropWhile_cons_of_neg (by simp), List.takeWhile_cons_of_neg (by simp), List.append_nil,
    List.tail_cons]

/-- A focus of a sound tracker is behind the views before it, which are others. -/
theorem IsSound.exists_split (sound : tracker.IsSound) {index : Nat}
    (here : tracker.index = some index) :
    ∃ before id after, tracker = ⟨before ++ id :: after, some before.length⟩ ∧ id ∉ before := by
  have inRange := sound.placed index here
  obtain ⟨ids, _⟩ := tracker
  obtain rfl := here
  have split : ids.take index ++ ids[index] :: ids.drop (index + 1) = ids := by
    rw [← List.drop_eq_getElem_cons inRange, List.take_append_drop]
  refine ⟨ids.take index, ids[index], ids.drop (index + 1), ?_, fun earlier => ?_⟩
  · rw [split, List.length_take_of_le (Nat.le_of_lt inRange)]
  · have distinct : (ids.take index ++ ids[index] :: ids.drop (index + 1)).Nodup := by
      rw [split]
      exact sound.distinct
    exact (List.nodup_append.mp distinct).2.2 _ earlier _ List.mem_cons_self rfl

theorem focused?_split (before after : List String) (id : String) :
    FocusTracker.focused? ⟨before ++ id :: after, some before.length⟩ = some id := by
  simp [FocusTracker.focused?]

/-- The views in the order of moving on are all views, starting behind the focus. -/
theorem IsSound.onward_eq_rotate (sound : tracker.IsSound) :
    onward tracker.ids tracker.focused? = tracker.ids.rotate tracker.following := by
  cases here : tracker.index with
  | none => simp [FocusTracker.focused?, following, here, onward]
  | some index =>
    obtain ⟨before, id, after, rfl, absent⟩ := sound.exists_split here
    have behind : following ⟨before ++ id :: after, some before.length⟩ =
        (before ++ [id]).length := by
      simp [following]
    rw [focused?_split, onward_split absent, behind, List.append_cons before id after,
      List.rotate_append_length_eq, List.append_assoc]

/-- As many moves on as there are views lead to each of them, in the order of moving on. -/
theorem IsSound.told_next (sound : tracker.IsSound) :
    told next tracker.ids.length tracker =
      (onward tracker.ids tracker.focused?).map some := by
  by_cases views : tracker.ids = []
  · have unfocused : tracker.focused? = none := by
      cases focused : tracker.focused? with
      | none => rfl
      | some id => exact absurd (mem_of_focused? focused) (by simp [views])
    simp [views, unfocused, told, onward]
  · rw [told_next_places views, sound.onward_eq_rotate]
    refine List.ext_getElem? fun later => ?_
    by_cases inRange : later < tracker.ids.length
    · simp [inRange, Nat.add_comm]
    · simp [inRange]

/-! ## Moving back -/

/-- The tracker with its views in reverse. -/
def mirror (tracker : FocusTracker) : FocusTracker :=
  ⟨tracker.ids.reverse, tracker.index.map (tracker.ids.length - 1 - ·)⟩

/-- A mirrored tracker has its focus where it was. -/
theorem focused?_mirror (placed : tracker.IsPlaced) :
    tracker.mirror.focused? = tracker.focused? := by
  unfold mirror focused?
  cases here : tracker.index with
  | none => rfl
  | some index =>
    have inRange := placed index here
    simp only [Option.map_some, Option.bind_some]
    rw [List.getElem?_reverse (by omega)]
    congr 1
    omega

/-- A mirrored tracker is sound when it was. -/
theorem IsSound.mirror (sound : tracker.IsSound) : tracker.mirror.IsSound where
  distinct := List.nodup_reverse.mpr sound.distinct
  placed := by
    intro place there
    obtain ⟨index, here, rfl⟩ := Option.map_eq_some_iff.mp there
    have inRange := sound.placed index here
    simp only [FocusTracker.mirror, List.length_reverse]
    omega

/-- A move to a place is a move to the place that mirrors it. -/
theorem mirror_moveTo {index : Nat} (inRange : index < tracker.ids.length) :
    (tracker.moveTo index).1.mirror = (tracker.mirror.moveTo (tracker.ids.length - 1 - index)).1 ∧
      (tracker.moveTo index).2 =
        (tracker.mirror.moveTo (tracker.ids.length - 1 - index)).2 := by
  refine ⟨rfl, ?_⟩
  simp only [moveTo, mirror]
  rw [List.getElem?_reverse (by omega)]
  congr 1
  omega

/-- The place before the focus, or round to the last one; without focus, the last one. -/
def preceding (tracker : FocusTracker) : Nat :=
  match tracker.index with
  | none => tracker.ids.length - 1
  | some index => (index + (tracker.ids.length - 1)) % tracker.ids.length

/-- The place before the focus is that of a view, and mirrors the place behind the focus. -/
theorem preceding_mirrors (placed : tracker.IsPlaced) (views : tracker.ids ≠ []) :
    tracker.preceding < tracker.ids.length ∧
      tracker.mirror.following % tracker.ids.length =
        tracker.ids.length - 1 - tracker.preceding := by
  have positive : 0 < tracker.ids.length := List.length_pos_iff.mpr views
  unfold preceding following mirror
  cases here : tracker.index with
  | none =>
    refine ⟨Nat.sub_lt positive Nat.one_pos, ?_⟩
    simp
  | some index =>
    have inRange := placed index here
    simp only [Option.map_some]
    rcases Nat.eq_zero_or_pos index with rfl | later
    · rw [Nat.zero_add, Nat.mod_eq_of_lt (by omega : tracker.ids.length - 1 < _),
        (by omega : tracker.ids.length - 1 - 0 + 1 = tracker.ids.length), Nat.mod_self]
      omega
    · rw [(by omega : index + (tracker.ids.length - 1) = index - 1 + tracker.ids.length),
        Nat.add_mod_right, Nat.mod_eq_of_lt (by omega : index - 1 < _),
        Nat.mod_eq_of_lt (by omega : tracker.ids.length - 1 - index + 1 < _)]
      omega

theorem prev_eq_moveTo (views : tracker.ids ≠ []) :
    tracker.prev = tracker.moveTo tracker.preceding :=
  if_neg views

theorem IsPlaced.prev (placed : tracker.IsPlaced) : tracker.prev.1.IsPlaced := by
  by_cases views : tracker.ids = []
  · rwa [FocusTracker.prev, if_pos views]
  · rw [prev_eq_moveTo views]
    exact isPlaced_moveTo (preceding_mirrors placed views).1

/-- Moving back is moving on in the mirror. -/
theorem mirror_prev (placed : tracker.IsPlaced) :
    tracker.prev.1.mirror = tracker.mirror.next.1 ∧ tracker.prev.2 = tracker.mirror.next.2 := by
  by_cases views : tracker.ids = []
  · simp [prev, next, mirror, views]
  · obtain ⟨inRange, mirrored⟩ := preceding_mirrors placed views
    have mirrorViews : tracker.mirror.ids ≠ [] := by simpa [mirror] using views
    have sameLength : tracker.mirror.ids.length = tracker.ids.length := List.length_reverse
    rw [prev_eq_moveTo views, next_eq_moveTo mirrorViews, sameLength, mirrored]
    exact mirror_moveTo inRange

/-- A number of moves back tell what as many moves on tell in the mirror. -/
theorem told_prev_mirror (placed : tracker.IsPlaced) (count : Nat) :
    told prev count tracker = told next count tracker.mirror := by
  induction count generalizing tracker with
  | zero => rfl
  | succ count inductionHypothesis =>
    obtain ⟨state, view⟩ := mirror_prev placed
    rw [told, told, inductionHypothesis placed.prev, state, view]

/-- As many moves back as there are views lead to each of them, in the order of moving on in
reverse. -/
theorem IsSound.told_prev (sound : tracker.IsSound) :
    told prev tracker.ids.length tracker =
      (onward tracker.ids.reverse tracker.focused?).map some := by
  have sameLength : tracker.mirror.ids.length = tracker.ids.length := List.length_reverse
  rw [told_prev_mirror sound.placed, ← sameLength, sound.mirror.told_next,
    focused?_mirror sound.placed]
  rfl

/-! ## There and back -/

/-- Two strides that make up a round together lead back to where they started. -/
theorem IsSound.stride_back {forth back : FocusTracker → FocusTracker × Option String}
    {places others : Nat → Nat} (isForth : IsStride forth places) (isBack : IsStride back others)
    (round : ∀ length, 0 < length → places length + others length = length)
    (sound : tracker.IsSound) (focused : tracker.focused? = some id) :
    back (forth tracker).1 = (tracker, some id) := by
  obtain ⟨index, here, there⟩ := Option.bind_eq_some_iff.mp focused
  have inRange := sound.placed index here
  have views : tracker.ids ≠ [] := List.length_pos_iff.mp (Nat.zero_lt_of_lt inRange)
  have returned : ((index + places tracker.ids.length) % tracker.ids.length +
      others tracker.ids.length) % tracker.ids.length = index := by
    rw [Nat.mod_add_mod, Nat.add_assoc, round _ (Nat.zero_lt_of_lt inRange), Nat.add_mod_right,
      Nat.mod_eq_of_lt inRange]
  rw [isForth tracker index views here]
  refine (isBack _ _ (by exact views) rfl).trans ?_
  simp only [moveTo, returned, there, ← here]

end NodeConsole.Form.FocusTracker
