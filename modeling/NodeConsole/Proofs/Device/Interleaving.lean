import NodeConsole.Device.Model

/-!
# Interleaved updates

The services of a node report independently, so their updates arrive in any order. Each field of
the model depends on its own updates alone: `applyAll_interleaved` says on which, and that two
orders which agree on the updates of every fragment lead to the same model. Three services report on
the node itself; their updates share one fragment, and only the order among them matters.
-/

namespace NodeConsole.Device

open NodeConsole.Wire

/-- A part of the model that is replaced as a whole. -/
inductive Fragment where
  | node | apps | network | vault | downloader | kernelLog
  deriving DecidableEq, Repr

namespace Update

/-- The fragment that an update changes. -/
def fragment : Update → Fragment
  | node _ | onboarding _ | summary _ => .node
  | app _ | appList _ => .apps
  | network _ => .network
  | vault _ => .vault
  | downloader _ => .downloader
  | kernelLog _ => .kernelLog

/-- The server that an update reports. -/
def server? : Update → Option (Option String)
  | node report => some report.server
  | _ => none

/-- The summary that an update reports. A node report without one reports zeros. -/
def summary? : Update → Option AppSummary
  | node report => some ((report.summary.map AppSummary.of).getD {})
  | summary report => some (.of report)
  | _ => none

/-- The state of onboarding that an update reports. -/
def onboarding? : Update → Option Onboarding
  | node report => some (.of report)
  | onboarding report => some (.done report.deviceUuid)
  | _ => none

/-- The ports that an update reports. -/
def ports? : Update → Option (List Port)
  | network status => some (portsOf status)
  | _ => none

/-- The state of the vault that an update reports. -/
def vault? : Update → Option Vault
  | vault report => some (.of report)
  | _ => none

/-- The state of the downloader that an update reports. -/
def downloader? : Update → Option (Option DownloadStatus)
  | downloader status => some (some status)
  | _ => none

/-- What an update does to the applications. -/
def appsChange? : Update → Option (AppMap → AppMap)
  | app status => some fun apps => apps.update status
  | appList list => some fun _ => .ofList list
  | _ => none

/-- The kernel records that an update brings. -/
def records? : Update → Option (List KernelRecord)
  | kernelLog records => some records
  | _ => none

end Update

/-- What the last of the updates that concern a field reports; what was known before if there is
none. -/
def latest {α : Type} (report? : Update → Option α) (updates : List Update) (before : α) : α :=
  (updates.filterMap report?).getLast?.getD before

theorem latest_append {α : Type} (report? : Update → Option α) (front back : List Update)
    (before : α) :
    latest report? (front ++ back) before = latest report? back (latest report? front before) := by
  simp only [latest, List.filterMap_append, List.getLast?_append]
  cases (back.filterMap report?).getLast? <;> rfl

/-- Only the updates of a fragment make a report. -/
def ReportsOn {β : Type} (fragment : Fragment) (report? : Update → Option β) : Prop :=
  ∀ update, update.fragment ≠ fragment → report? update = none

theorem reportsOn_own :
    ReportsOn .node Update.server? ∧ ReportsOn .node Update.summary? ∧
      ReportsOn .node Update.onboarding? ∧ ReportsOn .network Update.ports? ∧
      ReportsOn .vault Update.vault? ∧ ReportsOn .downloader Update.downloader? ∧
      ReportsOn .apps Update.appsChange? ∧ ReportsOn .kernelLog Update.records? := by
  refine ⟨?_, ?_, ?_, ?_, ?_, ?_, ?_, ?_⟩
  all_goals
    intro update foreign
    cases update <;> first | rfl | exact absurd rfl foreign

/-- Reports on one fragment can be collected from its updates alone. -/
theorem filterMap_fragment {β : Type} {report? : Update → Option β} {fragment : Fragment}
    (owned : ReportsOn fragment report?) (updates : List Update) :
    (updates.filter (·.fragment = fragment)).filterMap report? = updates.filterMap report? := by
  rw [List.filterMap_filter]
  congr 1
  funext update
  by_cases own : update.fragment = fragment
  · simp [own]
  · simp [own, owned update own]

/-- Two orders of updates that agree on the updates of every fragment. -/
def SameFragments (left right : List Update) : Prop :=
  ∀ fragment, left.filter (·.fragment = fragment) = right.filter (·.fragment = fragment)

namespace SameFragments

variable {left right : List Update}

theorem filterMap_eq (same : SameFragments left right) {β : Type} {report? : Update → Option β}
    {fragment : Fragment} (owned : ReportsOn fragment report?) :
    left.filterMap report? = right.filterMap report? := by
  rw [← filterMap_fragment owned left, same fragment, filterMap_fragment owned right]

theorem latest_eq (same : SameFragments left right) {α : Type} {report? : Update → Option α}
    {fragment : Fragment} (owned : ReportsOn fragment report?) (before : α) :
    latest report? left before = latest report? right before := by
  rw [latest, same.filterMap_eq owned, latest]

/-- Updates with the same fragments are rearrangements of each other. -/
theorem perm (same : SameFragments left right) : left.Perm right := by
  rw [List.perm_iff_count]
  intro update
  calc left.count update
      = (left.filter (·.fragment = update.fragment)).count update := by
        rw [List.count_filter (by simp)]
    _ = (right.filter (·.fragment = update.fragment)).count update := by rw [same]
    _ = right.count update := by rw [List.count_filter (by simp)]

end SameFragments

/-- What a run of updates makes of a model: each field holds what the last update that concerns it
reported, or what was known before; the applications and the kernel log take their own updates in
order; and the generation counts the updates. -/
structure IsOutcome (model : Model) (updates : List Update) (last : Model) : Prop where
  generation : last.generation = model.generation + updates.length
  server : last.node.server = latest Update.server? updates model.node.server
  summary : last.node.summary = latest Update.summary? updates model.node.summary
  onboarding : last.node.onboarding = latest Update.onboarding? updates model.node.onboarding
  network : last.network = latest Update.ports? updates model.network
  vault : last.vault = latest Update.vault? updates model.vault
  downloader : last.downloader = latest Update.downloader? updates model.downloader
  apps : last.apps =
    (updates.filterMap Update.appsChange?).foldl (fun apps change => change apps) model.apps
  kernelLog : last.kernelLog =
    (updates.filterMap Update.records?).foldl appendRecords model.kernelLog

namespace IsOutcome

variable {model : Model} {updates : List Update}

/-- A run has one outcome. -/
theorem unique {left right : Model} (isLeft : IsOutcome model updates left)
    (isRight : IsOutcome model updates right) : left = right := by
  have node : left.node = right.node := by
    rcases leftNode : left.node with ⟨server, summary, onboarding⟩
    rcases rightNode : right.node with ⟨server', summary', onboarding'⟩
    have sameServer := isLeft.server.trans isRight.server.symm
    have sameSummary := isLeft.summary.trans isRight.summary.symm
    have sameOnboarding := isLeft.onboarding.trans isRight.onboarding.symm
    rw [leftNode, rightNode] at sameServer sameSummary sameOnboarding
    rw [Node.mk.injEq]
    exact ⟨sameServer, sameSummary, sameOnboarding⟩
  cases left
  cases right
  rw [Model.mk.injEq]
  exact ⟨isLeft.generation.trans isRight.generation.symm, node,
    isLeft.apps.trans isRight.apps.symm, isLeft.network.trans isRight.network.symm,
    isLeft.vault.trans isRight.vault.symm, isLeft.downloader.trans isRight.downloader.symm,
    isLeft.kernelLog.trans isRight.kernelLog.symm⟩

/-- Runs that agree on the updates of every fragment have the same outcome. -/
theorem of_sameFragments {other : List Update} {last : Model} (outcome : IsOutcome model other last)
    (same : SameFragments other updates) : IsOutcome model updates last := by
  obtain ⟨server, summary, onboarding, network, vault, downloader, apps, kernelLog⟩ := reportsOn_own
  constructor
  · rw [outcome.generation, same.perm.length_eq]
  · rw [outcome.server, same.latest_eq server]
  · rw [outcome.summary, same.latest_eq summary]
  · rw [outcome.onboarding, same.latest_eq onboarding]
  · rw [outcome.network, same.latest_eq network]
  · rw [outcome.vault, same.latest_eq vault]
  · rw [outcome.downloader, same.latest_eq downloader]
  · rw [outcome.apps, same.filterMap_eq apps]
  · rw [outcome.kernelLog, same.filterMap_eq kernelLog]

theorem refl (model : Model) : IsOutcome model [] model := by
  constructor <;> rfl

theorem of_apply (model : Model) (update : Update) :
    IsOutcome model [update] (model.apply update) := by
  cases update <;> constructor <;>
    simp [latest, List.filterMap_cons, Model.apply, Model.change, Node.of, Update.server?,
      Update.summary?, Update.onboarding?, Update.ports?, Update.vault?, Update.downloader?,
      Update.appsChange?, Update.records?]

/-- The outcome of a run that goes on is the outcome of all its updates. -/
theorem trans {more : List Update} {middle last : Model} (first : IsOutcome model updates middle)
    (second : IsOutcome middle more last) : IsOutcome model (updates ++ more) last where
  generation := by
    rw [second.generation, first.generation, List.length_append, Nat.add_assoc]
  server := by rw [second.server, first.server, latest_append]
  summary := by rw [second.summary, first.summary, latest_append]
  onboarding := by rw [second.onboarding, first.onboarding, latest_append]
  network := by rw [second.network, first.network, latest_append]
  vault := by rw [second.vault, first.vault, latest_append]
  downloader := by rw [second.downloader, first.downloader, latest_append]
  apps := by rw [second.apps, first.apps, List.filterMap_append, List.foldl_append]
  kernelLog := by rw [second.kernelLog, first.kernelLog, List.filterMap_append, List.foldl_append]

theorem of_applyAll (model : Model) (updates : List Update) :
    IsOutcome model updates (model.applyAll updates) := by
  induction updates generalizing model with
  | nil => exact refl model
  | cons update rest inductionHypothesis =>
    exact (of_apply model update).trans (inductionHypothesis (model.apply update))

end IsOutcome

/-- Applying updates one after another leads to their outcome, and it does not matter how the
updates of different fragments are interleaved. -/
theorem applyAll_interleaved (model : Model) (updates : List Update) :
    IsOutcome model updates (model.applyAll updates) ∧
      ∀ other, SameFragments other updates → model.applyAll other = model.applyAll updates := by
  have outcome := IsOutcome.of_applyAll model updates
  refine ⟨outcome, fun other same => ?_⟩
  exact ((IsOutcome.of_applyAll model other).of_sameFragments same).unique outcome

/-- It does not matter when the vault reports between a report on the node and a summary. -/
theorem applyAll_interleaved_vault :
    let node : Update := .node ⟨some "zedcloud", none, false, none⟩
    let summary : Update := .summary ⟨0, 2, 0, 1⟩
    let vault : Update := .vault ⟨"vault", .known .enabled, .known .enabled, true, none, {}⟩
    SameFragments [vault, node, summary] [node, vault, summary] ∧
      Model.applyAll {} [vault, node, summary] = Model.applyAll {} [node, vault, summary] := by
  intro node summary vault
  have same : SameFragments [vault, node, summary] [node, vault, summary] := by
    intro fragment
    cases fragment <;> rfl
  exact ⟨same, (applyAll_interleaved {} _).2 _ same⟩

end NodeConsole.Device
