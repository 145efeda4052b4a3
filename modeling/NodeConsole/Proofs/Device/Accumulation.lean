import Mathlib.Data.List.DropRight
import Mathlib.Data.List.Induction
import NodeConsole.Proofs.Device.Interleaving
import NodeConsole.Proofs.Keyed

/-!
# Fragments that accumulate

Most fragments of a model hold what the last message on them said. Two hold more than that. The
applications are those of the last list and of the statuses that came after it, each as its last
status describes it: `applyAll_listsApps`. The kernel log is the end of all records that have
arrived, wherever one batch of them ended and the next began: `applyAll_keepsLastRecords`.
-/

namespace NodeConsole.Device

open NodeConsole.Wire

/-! ## The last status of an application -/

/-- The last of some statuses that is of an application. -/
def newest? (statuses : List AppStatus) (uuid : Uuid) : Option AppStatus :=
  statuses.reverse.find? (·.uuid = uuid)

theorem newest?_append (earlier later : List AppStatus) (uuid : Uuid) :
    newest? (earlier ++ later) uuid = (newest? later uuid).or (newest? earlier uuid) := by
  unfold newest?
  rw [List.reverse_append, List.find?_append]

theorem mem_of_newest? {statuses : List AppStatus} {uuid : Uuid} {status : AppStatus}
    (found : newest? statuses uuid = some status) : status ∈ statuses ∧ status.uuid = uuid :=
  ⟨List.mem_reverse.mp (List.mem_of_find?_eq_some found), by simpa using List.find?_some found⟩

/-- An application has a last status when it has one. -/
theorem newest?_isSome {statuses : List AppStatus} {status : AppStatus}
    (member : status ∈ statuses) : ∃ last, newest? statuses status.uuid = some last := by
  cases found : newest? statuses status.uuid with
  | some last => exact ⟨last, rfl⟩
  | none =>
    have absent := List.find?_eq_none.mp found status (List.mem_reverse.mpr member)
    exact absurd (decide_eq_true rfl) absent

namespace AppMap

theorem entries_update (apps : AppMap) (status : AppStatus) :
    (apps.update status).entries = put apps.entries status.uuid (.of status) := by
  unfold update insert put
  split <;> rfl

theorem find?_update (apps : AppMap) (status : AppStatus) (uuid : Uuid) :
    (apps.update status).find? uuid =
      if uuid = status.uuid then some (.of status) else apps.find? uuid := by
  unfold find?
  rw [entries_update, find?_put]
  split <;> rfl

/-- Of several statuses the last one of an application is taken over. -/
theorem find?_updates (apps : AppMap) (statuses : List AppStatus) (uuid : Uuid) :
    (statuses.foldl AppMap.update apps).find? uuid =
      ((newest? statuses uuid).map App.of).or (apps.find? uuid) := by
  induction statuses generalizing apps with
  | nil => rfl
  | cons status rest inductionHypothesis =>
    rw [List.foldl_cons, inductionHypothesis, find?_update, ← List.singleton_append,
      newest?_append]
    cases newest? rest uuid with
    | some last => rfl
    | none =>
      unfold newest?
      rw [List.reverse_singleton, List.find?_singleton, Option.none_or, Option.map_none,
        Option.none_or]
      by_cases own : uuid = status.uuid
      · rw [if_pos own, if_pos (decide_eq_true own.symm)]
        rfl
      · rw [if_neg own, if_neg fun same => own (of_decide_eq_true same).symm]
        rfl

theorem find?_ofList (statuses : List AppStatus) (uuid : Uuid) :
    (ofList ⟨statuses⟩).find? uuid = (newest? statuses uuid).map App.of :=
  (find?_updates {} statuses uuid).trans Option.or_none

end AppMap

/-! ## Applications -/

namespace Update

/-- The list of applications that an update brings. -/
def list? : Update → Option (List AppStatus)
  | appList list => some list.apps
  | _ => none

/-- The status of an application that an update brings. -/
def status? : Update → Option AppStatus
  | app status => some status
  | _ => none

end Update

/-- The updates after the last one that brought a list; all of them if none did. -/
def sinceList (updates : List Update) : List Update :=
  updates.rtakeWhile fun update => update.list?.isNone

/-- The statuses that stand after some updates: those of the last list, or those that stood before
if there was none, and then those that came after it. -/
def standing (before : List AppStatus) (updates : List Update) : List AppStatus :=
  latest Update.list? updates before ++ (sinceList updates).filterMap Update.status?

/-- An application is what a status says of it. It is in error exactly when there is an error text,
and then it has the code and the text. -/
structure App.Reflects (app : App) (status : AppStatus) : Prop where
  uuid : app.uuid = status.uuid
  name : app.name = status.displayName
  version : app.version = status.version
  error : app.state = .error status.state status.error.error ↔ status.error.error ≠ ""
  normal : app.state = .normal status.state ↔ status.error.error = ""

/-- The applications are those of some statuses, each as its last status describes it. -/
structure AppMap.Lists (apps : AppMap) (statuses : List AppStatus) : Prop where
  /-- An identifier has one entry. -/
  keyed : (apps.entries.map (·.1)).Nodup
  /-- An application stands under its own identifier. -/
  own : ∀ entry ∈ apps.entries, entry.2.uuid = entry.1
  /-- An identifier is known when some status has it. -/
  known : ∀ uuid, uuid ∈ apps.entries.map (·.1) ↔ ∃ status ∈ statuses, status.uuid = uuid
  /-- The last status of an identifier decides what stands there. -/
  last : ∀ earlier status later, statuses = earlier ++ status :: later →
    (∀ other ∈ later, other.uuid ≠ status.uuid) →
      ∃ app, (status.uuid, app) ∈ apps.entries ∧ app.Reflects status

/-- The application of a status is what the status says. -/
theorem App.reflects_of (status : AppStatus) : (App.of status).Reflects status := by
  have state : (App.of status).state =
      if status.error.error = "" then .normal status.state
      else .error status.state status.error.error := by
    by_cases fine : status.error.error = "" <;>
      simp [App.of, AppState.of, ErrorDescription.isError, fine]
  constructor
  case uuid => rfl
  case name => rfl
  case version => rfl
  case error => rw [state]; split <;> simp_all
  case normal => rw [state]; split <;> simp_all

/-- Only one application is what a status says. -/
theorem App.Reflects.eq_of {app : App} {status : AppStatus} (reflects : app.Reflects status) :
    app = .of status := by
  have again := App.reflects_of status
  have state : app.state = (App.of status).state := by
    by_cases fine : status.error.error = ""
    · rw [reflects.normal.mpr fine, again.normal.mpr fine]
    · rw [reflects.error.mpr fine, again.error.mpr fine]
  cases app
  rw [App.of, App.mk.injEq]
  exact ⟨reflects.uuid, reflects.name, reflects.version, state⟩

/-- The last status of an identifier is followed by those of others only. -/
theorem newest?_eq_some_iff {statuses : List AppStatus} {uuid : Uuid} {status : AppStatus} :
    newest? statuses uuid = some status ↔ status.uuid = uuid ∧ ∃ earlier later,
      statuses = earlier ++ status :: later ∧ ∀ other ∈ later, other.uuid ≠ uuid := by
  rw [newest?, List.find?_eq_some_iff_append, decide_eq_true_eq]
  refine and_congr_right fun _ => ?_
  constructor
  · rintro ⟨later, earlier, split, others⟩
    refine ⟨earlier.reverse, later.reverse, ?_, ?_⟩
    · simpa using congrArg List.reverse split
    · simpa using others
  · rintro ⟨earlier, later, rfl, others⟩
    exact ⟨later.reverse, earlier.reverse, by simp, by simpa using others⟩

namespace AppMap

variable {apps : AppMap} {statuses : List AppStatus}

/-- What stands under an identifier is what is found there. -/
theorem mem_entries_iff (keyed : (apps.entries.map (·.1)).Nodup) {uuid : Uuid} {app : App} :
    (uuid, app) ∈ apps.entries ↔ apps.find? uuid = some app := by
  rw [find?]
  constructor
  · intro member
    rw [find?_of_mem keyed member]
    rfl
  · intro found
    obtain ⟨entry, first, rfl⟩ := Option.map_eq_some_iff.mp found
    have own : entry.1 = uuid := by simpa using List.find?_some first
    rw [← own]
    exact List.mem_of_find?_eq_some first

/-- An identifier is known when something is found under it. -/
theorem mem_keys_iff (keyed : (apps.entries.map (·.1)).Nodup) {uuid : Uuid} :
    uuid ∈ apps.entries.map (·.1) ↔ ∃ app, apps.find? uuid = some app := by
  simp only [← mem_entries_iff keyed, List.mem_map, Prod.exists, exists_and_right, exists_eq_right]

/-- Applications are those of some statuses exactly when their identifiers differ, and what is found
under one is made of its last status. -/
theorem lists_iff : apps.Lists statuses ↔ (apps.entries.map (·.1)).Nodup ∧
    ∀ uuid, apps.find? uuid = (newest? statuses uuid).map App.of := by
  constructor
  · intro lists
    refine ⟨lists.keyed, fun uuid => ?_⟩
    cases newest : newest? statuses uuid with
    | some status =>
      obtain ⟨rfl, earlier, later, split, others⟩ := newest?_eq_some_iff.mp newest
      obtain ⟨app, member, reflects⟩ := lists.last earlier status later split others
      rw [(mem_entries_iff lists.keyed).mp member, reflects.eq_of]
      rfl
    | none =>
      refine Option.eq_none_iff_forall_ne_some.mpr fun app found => ?_
      obtain ⟨status, listed, rfl⟩ :=
        (lists.known uuid).mp ((mem_keys_iff lists.keyed).mpr ⟨app, found⟩)
      obtain ⟨last, found⟩ := newest?_isSome listed
      rw [newest] at found
      cases found
  · rintro ⟨keyed, found⟩
    constructor
    case keyed => exact keyed
    case own =>
      intro entry member
      have stands := (mem_entries_iff keyed).mp member
      rw [found] at stands
      obtain ⟨status, newest, same⟩ := Option.map_eq_some_iff.mp stands
      rw [← same, ← (mem_of_newest? newest).2]
      rfl
    case known =>
      intro uuid
      simp only [mem_keys_iff keyed, found, Option.map_eq_some_iff]
      constructor
      · rintro ⟨_, status, newest, -⟩
        exact ⟨status, mem_of_newest? newest⟩
      · rintro ⟨status, listed, rfl⟩
        obtain ⟨last, newest⟩ := newest?_isSome listed
        exact ⟨_, last, newest, rfl⟩
    case last =>
      intro earlier status later split others
      have newest := newest?_eq_some_iff.mpr ⟨rfl, earlier, later, split, others⟩
      refine ⟨.of status, (mem_entries_iff keyed).mpr ?_, App.reflects_of status⟩
      rw [found, newest]
      rfl

theorem lists_empty : ({} : AppMap).Lists [] :=
  lists_iff.mpr ⟨.nil, fun _ => rfl⟩

/-- A status that is taken over comes last. -/
theorem Lists.update (lists : apps.Lists statuses) (status : AppStatus) :
    (apps.update status).Lists (statuses ++ [status]) := by
  obtain ⟨keyed, found⟩ := lists_iff.mp lists
  refine lists_iff.mpr ⟨?_, fun uuid => ?_⟩
  · rw [entries_update]
    exact nodup_put keyed status.uuid (.of status)
  · have taken := find?_updates apps [status] uuid
    rw [found, ← Option.map_or, ← newest?_append] at taken
    exact taken

/-- Applications that are built from statuses are those of the statuses. -/
theorem lists_ofList (list : AppList) : (ofList list).Lists list.apps := by
  have more (apps : AppMap) (before statuses : List AppStatus) (lists : apps.Lists before) :
      (statuses.foldl AppMap.update apps).Lists (before ++ statuses) := by
    induction statuses generalizing apps before with
    | nil => rwa [List.append_nil]
    | cons status rest inductionHypothesis =>
      rw [List.append_cons]
      exact inductionHypothesis _ _ (lists.update status)
  exact more {} [] list.apps lists_empty

end AppMap

theorem standing_concat (before : List AppStatus) (updates : List Update) (update : Update) :
    standing before (updates ++ [update]) =
      match update with
      | .appList list => list.apps
      | .app status => standing before updates ++ [status]
      | _ => standing before updates := by
  cases update <;>
    simp [standing, sinceList, latest, Update.list?, Update.status?]

/-- The applications of a model are those of the statuses that stand. -/
theorem lists_applyAll {model : Model} {before : List AppStatus} (lists : model.apps.Lists before)
    (updates : List Update) : (model.applyAll updates).apps.Lists (standing before updates) := by
  induction updates using List.reverseRecOn with
  | nil =>
    have nothing : standing before [] = before := List.append_nil before
    rwa [nothing]
  | append_singleton updates update inductionHypothesis =>
    have applied : model.applyAll (updates ++ [update]) = (model.applyAll updates).apply update :=
      List.foldl_concat ..
    rw [applied, standing_concat]
    cases update with
    | app status => exact inductionHypothesis.update status
    | appList list => exact AppMap.lists_ofList list
    | _ => simpa only [Model.apply, Model.change] using inductionHypothesis

/-- After any updates of a new model, or of one whose applications are those of some statuses, its
applications are those of the statuses that stand, each as the last of them describes it. -/
theorem applyAll_listsApps (updates : List Update) :
    (Model.applyAll {} updates).apps.Lists (standing [] updates) ∧
      ∀ model before, AppMap.Lists (Model.apps model) before →
        (model.applyAll updates).apps.Lists (standing before updates) :=
  ⟨lists_applyAll AppMap.lists_empty updates, fun _ _ lists => lists_applyAll lists updates⟩

/-! ## Kernel log -/

theorem rtake_append_rtake {α : Type} (front back : List α) (size : Nat) :
    (front.rtake size ++ back).rtake size = (front ++ back).rtake size := by
  simp only [List.rtake_eq_reverse_take_reverse, List.reverse_append, List.reverse_reverse,
    List.take_append, List.take_take]
  congr 3
  omega

/-- Batches of records leave the last records of all of them. -/
theorem foldl_appendRecords {kept : List KernelRecord} (bounded : kept.length ≤ kernelLogCapacity)
    (batches : List (List KernelRecord)) :
    batches.foldl appendRecords kept = (kept ++ batches.flatten).rtake kernelLogCapacity := by
  induction batches using List.reverseRecOn with
  | nil =>
    rw [List.foldl_nil, List.flatten_nil, List.append_nil, List.rtake,
      Nat.sub_eq_zero_of_le bounded, List.drop_zero]
  | append_singleton batches batch inductionHypothesis =>
    calc (batches ++ [batch]).foldl appendRecords kept
        = (batches.foldl appendRecords kept ++ batch).rtake kernelLogCapacity :=
          List.foldl_concat ..
      _ = (kept ++ batches.flatten ++ batch).rtake kernelLogCapacity := by
          rw [inductionHypothesis, rtake_append_rtake]
      _ = (kept ++ (batches ++ [batch]).flatten).rtake kernelLogCapacity := by
          rw [List.flatten_concat, List.append_assoc]

/-- A new model keeps the last thousand of all records that arrive, in order. It does not matter how
they are grouped. -/
theorem applyAll_keepsLastRecords (updates : List Update) :
    let arrived := (updates.filterMap Update.records?).flatten
    let kept := (Model.applyAll {} updates).kernelLog
    kept = arrived.rtake 1000 ∧ kept.length ≤ 1000 ∧
      ∀ other, (other.filterMap Update.records?).flatten = arrived →
        (Model.applyAll {} other).kernelLog = kept := by
  have keeps (updates : List Update) : (Model.applyAll {} updates).kernelLog =
      ((updates.filterMap Update.records?).flatten).rtake kernelLogCapacity :=
    (IsOutcome.of_applyAll {} updates).kernelLog.trans (foldl_appendRecords (Nat.zero_le _) _)
  refine ⟨keeps updates, ?_, fun other same => ?_⟩
  · rw [keeps, List.rtake, List.length_drop, kernelLogCapacity]
    omega
  · rw [keeps, keeps, same]

end NodeConsole.Device
