import Mathlib.Data.Prod.Lex
import Mathlib.Data.String.Basic
import NodeConsole.Panel.Apps
import NodeConsole.Proofs.Device.Accumulation
import NodeConsole.Proofs.Uuid

/-!
# The panel of the applications

Applications are shown in the order of their keys. In a model each stands under its own identifier,
and identifiers differ in their texts, so no two applications have the same key and there is only
one way to put them in order: `sortedApps_congr`. The panel therefore shows which applications there
are, and nothing of how they arrived: `apps_ignoreArrival`.
-/

namespace NodeConsole.Panel

open NodeConsole.Device NodeConsole.Paint NodeConsole.Text

/-! ## Order -/

/-- What applications are ordered by: the name in small letters, then the text of the identifier. -/
def sortKey (app : App) : String ×ₗ String :=
  toLex (lower app.name, app.uuid.text)

/-- Applications are compared by their keys. -/
theorem appLe_iff {first second : App} :
    appLe first second = true ↔ sortKey first ≤ sortKey second := by
  rw [sortKey, sortKey, Prod.Lex.toLex_le_toLex, appLe, Bool.or_eq_true, Bool.and_eq_true,
    decide_eq_true_eq, decide_eq_true_eq, Bool.not_eq_true', decide_eq_false_iff_not, not_lt]

theorem uuid_eq_of_sortKey {first second : App} (same : sortKey first = sortKey second) :
    first.uuid = second.uuid :=
  Uuid.text_injective (congrArg (fun key => (ofLex key).2) same)

/-- Applications that are sorted are in order of their keys. -/
theorem pairwise_sortedApps (found : AppMap) :
    (sortedApps found).Pairwise fun first second => sortKey first ≤ sortKey second := by
  refine (List.pairwise_mergeSort (fun first second third => ?_) (fun first second => ?_)
    found.values).imp appLe_iff.mp
  · rw [appLe_iff, appLe_iff, appLe_iff]
    exact le_trans
  · rw [Bool.or_eq_true, appLe_iff, appLe_iff]
    exact le_total _ _

theorem sortedApps_perm (found : AppMap) : (sortedApps found).Perm found.values :=
  List.mergeSort_perm ..

/-! ## Maps by identifier -/

section Keyed

variable {found others : AppMap} {statuses standing : List Wire.AppStatus}

/-- Applications that stand under their own identifiers are told apart by these. -/
theorem nodup_uuids (lists : found.Lists statuses) : (found.values.map App.uuid).Nodup := by
  have own : found.values.map App.uuid = found.entries.map (·.1) := by
    rw [AppMap.values, List.map_map]
    exact List.map_congr_left lists.own
  rw [own]
  exact lists.keyed

/-- Maps with the same applications show them in the same order. -/
theorem sortedApps_congr (lists : found.Lists statuses)
    (same : others.entries.Perm found.entries) : sortedApps others = sortedApps found := by
  have perm : (sortedApps others).Perm (sortedApps found) :=
    (sortedApps_perm others).trans ((same.map _).trans (sortedApps_perm found).symm)
  refine perm.eq_of_pairwise (fun first second member listed before after => ?_)
    (pairwise_sortedApps others) (pairwise_sortedApps found)
  have firstListed := (sortedApps_perm found).subset (perm.subset member)
  have secondListed := (sortedApps_perm found).subset listed
  have uuid := uuid_eq_of_sortKey (le_antisymm before after)
  exact List.inj_on_of_nodup_map (nodup_uuids lists) firstListed secondListed uuid

theorem perm_of_find? (lists : found.Lists statuses) (again : others.Lists standing)
    (same : ∀ uuid, others.find? uuid = found.find? uuid) :
    others.entries.Perm found.entries := by
  refine (List.perm_ext_iff_of_nodup again.keyed.of_map lists.keyed.of_map).mpr ?_
  rintro ⟨uuid, app⟩
  rw [AppMap.mem_entries_iff again.keyed, AppMap.mem_entries_iff lists.keyed, same]

end Keyed

/-! ## The panel -/

theorem apps_congr {found others : AppMap} (same : sortedApps others = sortedApps found)
    (limit : Option Int) : apps others limit = apps found limit := by
  rw [apps, apps, same]

theorem title_apps (found : AppMap) (limit : Option Int) :
    (apps found limit).title =
      some (titleMarkup ("Applications (" ++ decimalNat found.entries.length ++ ")")) := by
  have length : (sortedApps found).length = found.entries.length :=
    (sortedApps_perm found).length_eq.trans (List.length_map _)
  rw [← length]
  rfl

/-- The border tells of an error when any application is in error, and of none otherwise. -/
theorem border_apps (found : AppMap) (limit : Option Int) :
    ((apps found limit).border = Tone.error.border ↔
        ∃ entry ∈ found.entries, entry.2.state.isError = true) ∧
      ((apps found limit).border = Tone.ok.border ↔
        ∀ entry ∈ found.entries, entry.2.state.isError = false) := by
  have all : (sortedApps found).any (·.state.isError) = found.entries.any (·.2.state.isError) :=
    (sortedApps_perm found).any_eq.trans List.any_map
  have border : (apps found limit).border =
      (if found.entries.any (·.2.state.isError) then Tone.error else Tone.ok).border := by
    rw [← all]
    rfl
  have differ : Tone.error.border ≠ Tone.ok.border := by decide
  rw [border]
  cases any : found.entries.any (·.2.state.isError) with
  | true =>
    have inError := List.any_eq_true.mp any
    refine ⟨iff_of_true rfl inError, iff_of_false differ fun none => ?_⟩
    obtain ⟨entry, member, failed⟩ := inError
    exact Bool.false_ne_true ((none entry member).symm.trans failed)
  | false =>
    have fine := List.any_eq_false.mp any
    refine ⟨iff_of_false differ.symm ?_, iff_of_true rfl fun entry member => ?_⟩
    · rintro ⟨entry, member, failed⟩
      exact fine entry member failed
    · exact Bool.eq_false_of_not_eq_true (fine entry member)

/-- In every model all applications are shown once each, in the order of their names in small
letters and then of the texts of their identifiers. Whatever else has the same entries, in whatever
order, gives the same list and the same panel for every limit. The count and the border of the panel
are those of all applications. -/
theorem apps_ignoreArrival (updates : List Update) :
    let found := (Model.applyAll {} updates).apps
    ((sortedApps found).Perm found.values ∧ (sortedApps found).Nodup) ∧
    (sortedApps found).Pairwise (fun first second => sortKey first ≤ sortKey second) ∧
    (∀ others : AppMap, others.entries.Perm found.entries →
      sortedApps others = sortedApps found ∧ ∀ limit, apps others limit = apps found limit) ∧
    (∀ later, let others := (Model.applyAll {} later).apps
      (∀ uuid, others.find? uuid = found.find? uuid) →
        sortedApps others = sortedApps found ∧ ∀ limit, apps others limit = apps found limit) ∧
    ∀ limit,
      (apps found limit).title =
        some (titleMarkup ("Applications (" ++ decimalNat found.entries.length ++ ")")) ∧
      ((apps found limit).border = Tone.error.border ↔
        ∃ entry ∈ found.entries, entry.2.state.isError = true) ∧
      ((apps found limit).border = Tone.ok.border ↔
        ∀ entry ∈ found.entries, entry.2.state.isError = false) := by
  intro found
  have lists := (applyAll_listsApps updates).1
  have congr (others : AppMap) (same : others.entries.Perm found.entries) :
      sortedApps others = sortedApps found ∧ ∀ limit, apps others limit = apps found limit :=
    ⟨sortedApps_congr lists same, apps_congr (sortedApps_congr lists same)⟩
  refine ⟨⟨sortedApps_perm found, ?_⟩, pairwise_sortedApps found, congr, ?_, fun limit =>
    ⟨title_apps found limit, border_apps found limit⟩⟩
  · exact (sortedApps_perm found).nodup_iff.mpr (nodup_uuids lists).of_map
  · intro later others same
    exact congr others (perm_of_find? lists (applyAll_listsApps later).1 same)

end NodeConsole.Panel
