import NodeConsole.Proofs.Form.Lookups
import NodeConsole.Proofs.Form.Rounds

/-!
# Registered views

Views are added to a tracker and removed from it while the focus moves. Whatever is asked of it, its
place stays that of a view, so that no look-up fails; and its views are those that are registered,
in the order in which they were. `registeredAt?` tells the time of registration of each view on its
own, from the requests alone. `run_keepsViews` collects what holds after every run.
-/

namespace NodeConsole.Form.FocusTracker

variable {tracker : FocusTracker} {id : String}

/-! ## Requests -/

/-- What is asked of a tracker. -/
inductive Request where
  | add (id : String)
  | remove (id : String)
  | setFocus (id : String)
  | clear
  | next
  | prev
  deriving DecidableEq, Repr

/-- The tracker after a request. -/
def perform (tracker : FocusTracker) : Request → FocusTracker
  | .add id => tracker.add id
  | .remove id => tracker.remove id
  | .setFocus id => (tracker.setFocus id).1
  | .clear => tracker.clear
  | .next => tracker.next.1
  | .prev => tracker.prev.1

/-- Removes a view. If another one has the focus, it has to be among the views that are left. -/
def removeStrictly (tracker : FocusTracker) (id : String) : Except Missing FocusTracker :=
  if tracker.ids.contains id then do
    let left := tracker.ids.erase id
    match ← tracker.focusedStrictly with
    | none => .ok ⟨left, none⟩
    | some focused =>
      if focused = id then .ok ⟨left, none⟩
      else (require (.widget focused) (left.idxOf? focused)).map fun index => ⟨left, some index⟩
  else .ok tracker

/-- The tracker after a request, all of whose look-ups have to find something. -/
def performStrictly (tracker : FocusTracker) : Request → Except Missing FocusTracker
  | .add id => .ok (tracker.add id)
  | .remove id => tracker.removeStrictly id
  | .setFocus id => .ok (tracker.setFocus id).1
  | .clear => .ok tracker.clear
  | .next => tracker.nextStrictly.map (·.1)
  | .prev => tracker.prevStrictly.map (·.1)

/-- The tracker after requests. -/
def run (tracker : FocusTracker) (requests : List Request) : FocusTracker :=
  requests.foldl perform tracker

/-- The tracker after requests, all of whose look-ups have to find something. -/
def runStrictly (tracker : FocusTracker) (requests : List Request) :
    Except Missing FocusTracker :=
  requests.foldlM performStrictly tracker

/-! ## Registration -/

/-- When a view was registered that still is, among requests of which the latest comes first: the
number of requests before the one that added it. -/
def registeredAt? (id : String) : List Request → Option Nat
  | [] => none
  | .add other :: earlier =>
    if other = id then (registeredAt? id earlier).or (some earlier.length)
    else registeredAt? id earlier
  | .remove other :: earlier => if other = id then none else registeredAt? id earlier
  | _ :: earlier => registeredAt? id earlier

/-- Views are those that are registered, in the order in which they were. -/
structure AreRegistered (history : List Request) (ids : List String) : Prop where
  each : ∀ id, id ∈ ids ↔ (registeredAt? id history).isSome
  ordered : ids.Pairwise fun earlier later =>
    ∃ first second, registeredAt? earlier history = some first ∧
      registeredAt? later history = some second ∧ first < second

/-- A view was registered in the past. -/
theorem registeredAt?_lt {history : List Request} {time : Nat}
    (registered : registeredAt? id history = some time) : time < history.length := by
  induction history with
  | nil => exact nomatch registered
  | cons request earlier inductionHypothesis =>
    rw [List.length_cons]
    cases request with
    | add other =>
      rw [registeredAt?] at registered
      split at registered
      · rcases Option.or_eq_some_iff.mp registered with before | ⟨-, now⟩
        · exact Nat.lt_succ_of_lt (inductionHypothesis before)
        · exact Option.some.inj now ▸ Nat.lt_succ_self _
      · exact Nat.lt_succ_of_lt (inductionHypothesis registered)
    | remove other =>
      rw [registeredAt?] at registered
      split at registered
      · exact nomatch registered
      · exact Nat.lt_succ_of_lt (inductionHypothesis registered)
    | setFocus | clear | next | prev => exact Nat.lt_succ_of_lt (inductionHypothesis registered)

theorem ids_remove (tracker : FocusTracker) (id : String) :
    (tracker.remove id).ids = tracker.ids.erase id := by
  unfold remove
  split
  · rfl
  · next absent => exact (List.erase_of_not_mem (by simpa using absent)).symm

namespace AreRegistered

variable {history : List Request} {ids : List String}

/-- A request that leaves the times of registration leaves the registered views. -/
theorem congr {request : Request} (registered : AreRegistered history ids)
    (same : ∀ id, registeredAt? id (request :: history) = registeredAt? id history) :
    AreRegistered (request :: history) ids where
  each id := by
    rw [same]
    exact registered.each id
  ordered := by
    simp only [same]
    exact registered.ordered

/-- A view that is registered already keeps its time. -/
theorem addKnown (registered : AreRegistered history ids) (known : id ∈ ids) :
    AreRegistered (.add id :: history) ids := by
  refine registered.congr fun other => ?_
  rw [registeredAt?]
  split
  · next same =>
    obtain ⟨time, before⟩ := Option.isSome_iff_exists.mp ((registered.each id).mp known)
    rw [← same, before, Option.some_or]
  · rfl

/-- A view that is not registered comes last. -/
theorem addNew (registered : AreRegistered history ids) (new : id ∉ ids) :
    AreRegistered (.add id :: history) (ids ++ [id]) := by
  have never : registeredAt? id history = none := by
    simpa [new] using registered.each id
  have now : registeredAt? id (.add id :: history) = some history.length := by
    rw [registeredAt?, if_pos rfl, never, Option.none_or]
  have same {other : String} (differs : other ≠ id) :
      registeredAt? other (.add id :: history) = registeredAt? other history :=
    if_neg (Ne.symm differs)
  have differs {other : String} (member : other ∈ ids) : other ≠ id := by
    rintro rfl
    exact new member
  constructor
  · intro other
    rw [List.mem_append, List.mem_singleton, registered.each]
    by_cases here : other = id
    · simp [here, now]
    · simp [here, same here]
  · refine List.pairwise_append.mpr ⟨?_, List.pairwise_singleton .., ?_⟩
    · refine registered.ordered.imp_of_mem fun earlierMember laterMember before => ?_
      rwa [same (differs earlierMember), same (differs laterMember)]
    · intro earlier member _ isLast
      obtain rfl := List.mem_singleton.mp isLast
      obtain ⟨time, before⟩ := Option.isSome_iff_exists.mp ((registered.each earlier).mp member)
      exact ⟨time, _, (same (differs member)).trans before, now, registeredAt?_lt before⟩

/-- A view that is removed is registered no more. -/
theorem remove (registered : AreRegistered history ids) (distinct : ids.Nodup) (id : String) :
    AreRegistered (.remove id :: history) (ids.erase id) := by
  have same {other : String} (differs : other ≠ id) :
      registeredAt? other (.remove id :: history) = registeredAt? other history :=
    if_neg (Ne.symm differs)
  constructor
  · intro other
    rw [distinct.mem_erase_iff, registered.each]
    by_cases here : other = id
    · simp [here, registeredAt?]
    · simp [here, same here]
  · refine (registered.ordered.sublist List.erase_sublist).imp_of_mem ?_
    intro earlier later earlierMember laterMember before
    rwa [same (distinct.mem_erase_iff.mp earlierMember).1,
      same (distinct.mem_erase_iff.mp laterMember).1]

/-- A request does to the views what it does to their registration. -/
theorem perform (registered : AreRegistered history tracker.ids) (distinct : tracker.ids.Nodup)
    (request : Request) : AreRegistered (request :: history) (tracker.perform request).ids := by
  cases request with
  | add id =>
    rw [FocusTracker.perform, FocusTracker.add]
    split
    · next known => exact registered.addKnown (by simpa using known)
    · next new => exact registered.addNew (by simpa using new)
  | remove id =>
    rw [FocusTracker.perform, ids_remove]
    exact registered.remove distinct id
  | setFocus id =>
    have ids : (tracker.setFocus id).1.ids = tracker.ids := by
      unfold FocusTracker.setFocus
      split <;> rfl
    rw [FocusTracker.perform, ids]
    exact registered.congr fun _ => rfl
  | clear => exact registered.congr fun _ => rfl
  | next =>
    rw [FocusTracker.perform, isStep_next.ids]
    exact registered.congr fun _ => rfl
  | prev =>
    rw [FocusTracker.perform, isStep_prev.ids]
    exact registered.congr fun _ => rfl

end AreRegistered

/-! ## Runs -/

namespace IsSound

/-- A request leaves a tracker sound. -/
theorem perform (sound : tracker.IsSound) (request : Request) :
    (tracker.perform request).IsSound := by
  cases request with
  | add id => exact sound.add id
  | remove id => exact sound.remove id
  | setFocus id =>
    rw [FocusTracker.perform, FocusTracker.setFocus]
    split
    · next index found =>
      refine ⟨sound.distinct, ?_⟩
      rintro _ ⟨⟩
      exact (List.idxOf?_eq_some_iff.mp found).1
    · exact sound
  | clear =>
    refine ⟨sound.distinct, ?_⟩
    rintro _ ⟨⟩
  | next =>
    refine ⟨?_, sound.placed.next⟩
    rw [FocusTracker.perform, isStep_next.ids]
    exact sound.distinct
  | prev =>
    refine ⟨?_, sound.placed.prev⟩
    rw [FocusTracker.perform, isStep_prev.ids]
    exact sound.distinct

/-- Every look-up of a removal finds something. -/
theorem removeStrictly_eq (sound : tracker.IsSound) (id : String) :
    tracker.removeStrictly id = .ok (tracker.remove id) := by
  unfold removeStrictly FocusTracker.remove
  rw [focusedStrictly_eq sound.placed]
  split
  · cases focused : tracker.focused? with
    | none => rfl
    | some other =>
      by_cases same : other = id
      · simp [same, bind, Except.bind]
      · have left : other ∈ tracker.ids.erase id :=
          (List.mem_erase_of_ne same).mpr (mem_of_focused? focused)
        obtain ⟨index, found, -⟩ := exists_idxOf? left
        simp [same, found, bind, Except.bind, require, Except.map]
  · rfl

/-- Every look-up of a request finds something. -/
theorem performStrictly_eq (sound : tracker.IsSound) (request : Request) :
    tracker.performStrictly request = .ok (tracker.perform request) := by
  cases request with
  | remove id => exact sound.removeStrictly_eq id
  | next => rw [performStrictly, nextStrictly_eq]; rfl
  | prev => rw [performStrictly, prevStrictly_eq]; rfl
  | _ => rfl

/-- Every look-up of a run finds something, and the tracker after it is sound. -/
theorem run (sound : tracker.IsSound) (requests : List Request) :
    tracker.runStrictly requests = .ok (tracker.run requests) ∧
      (tracker.run requests).IsSound := by
  induction requests generalizing tracker with
  | nil => exact ⟨rfl, sound⟩
  | cons request rest inductionHypothesis =>
    obtain ⟨found, soundAfter⟩ := inductionHypothesis (sound.perform request)
    refine ⟨?_, soundAfter⟩
    rw [runStrictly, List.foldlM_cons, sound.performStrictly_eq request]
    exact found

end IsSound

/-- The views after a run are those that are registered. -/
theorem AreRegistered.run {history : List Request} (registered : AreRegistered history tracker.ids)
    (sound : tracker.IsSound) (requests : List Request) :
    AreRegistered (requests.reverse ++ history) (tracker.run requests).ids := by
  induction requests generalizing tracker history with
  | nil => exact registered
  | cons request rest inductionHypothesis =>
    have after := inductionHypothesis (registered.perform sound.distinct request)
      (sound.perform request)
    rwa [List.reverse_cons, List.append_assoc]

theorem ofIds_eq_run (ids : List String) : ofIds ids = run {} (ids.map .add) := by
  rw [ofIds, run, List.foldl_map]
  rfl

theorem isSound_empty : ({} : FocusTracker).IsSound :=
  ⟨List.nodup_nil, nofun⟩

/-- Whatever is asked of a tracker, no look-up fails: not of the requests, and not of the view that
has the focus. Its views are distinct, and are those that are registered, in the order in which they
were; the view that has the focus is one of them. The focus stays when a view is added, and when
another view is removed. As many moves on as there are views lead to each of them once, and from a
view that has the focus a move on and a move back take each other back. -/
theorem run_keepsViews (ids : List String) (requests : List Request) :
    let tracker := run (ofIds ids) requests
    runStrictly (ofIds ids) requests = .ok tracker ∧
    tracker.focusedStrictly = .ok tracker.focused? ∧
    tracker.ids.Nodup ∧
    AreRegistered (ids.map Request.add ++ requests).reverse tracker.ids ∧
    (∀ id, tracker.focused? = some id → id ∈ tracker.ids) ∧
    (∀ id, (tracker.add id).focused? = tracker.focused?) ∧
    (∀ id, (tracker.remove id).focused? =
      if tracker.focused? = some id then none else tracker.focused?) ∧
    (told next tracker.ids.length tracker).Perm (tracker.ids.map some) ∧
    (∀ id, tracker.focused? = some id →
      tracker.next.1.prev = (tracker, some id) ∧ tracker.prev.1.next = (tracker, some id)) := by
  intro tracker
  have empty : AreRegistered [] ({} : FocusTracker).ids := ⟨by simp [registeredAt?], .nil⟩
  have made : (ofIds ids).IsSound := by
    rw [ofIds_eq_run]
    exact (isSound_empty.run _).2
  obtain ⟨found, sound⟩ := made.run requests
  have registered := empty.run isSound_empty (ids.map Request.add ++ requests)
  have whole : run {} (ids.map .add ++ requests) = tracker := by
    rw [run, List.foldl_append]
    exact congrArg (run · requests) (ofIds_eq_run ids).symm
  rw [whole, List.append_nil] at registered
  have round : (told next tracker.ids.length tracker).Perm (tracker.ids.map some) := by
    rw [sound.told_next, sound.onward_eq_rotate]
    exact (List.rotate_perm ..).map some
  refine ⟨found, focusedStrictly_eq sound.placed, sound.distinct, registered,
    fun _ => mem_of_focused?, focused?_add sound.placed, focused?_remove tracker, round, ?_⟩
  intro id focused
  exact ⟨sound.stride_back isStride_next isStride_prev (by omega) focused,
    sound.stride_back isStride_prev isStride_next (by omega) focused⟩

end NodeConsole.Form.FocusTracker
