import NodeConsole.App
import NodeConsole.Proofs.Collector.Passes
import NodeConsole.Proofs.Decimal.Range

/-!
# Starting and collecting

Resolving a profile checks the tab that is shown first, the names of the topics and the shortest
tick. It does not check the longest tick, and of the patterns it takes whatever it is given:
`start_collects_iff` says for which profiles the program starts, and for which its passes go through
where all files hold messages.
-/

namespace NodeConsole

open NodeConsole.Collector NodeConsole.Decimal NodeConsole.Files NodeConsole.Screen

/-! ## What resolving a profile checks -/

namespace Profile

variable {fields : Fields} {profile next : Profile}

/-- The tick is not too short, the tab that is shown first is a tab, and all patterns are given to
topics. -/
structure IsChecked (profile : Profile) : Prop where
  tick : minTickMs ≤ profile.tickMs
  startTab : ∃ tab, Tab.ofName? profile.startTab = some tab
  topics : ∀ entry ∈ profile.topics, ∃ topic, Topic.ofName? entry.1 = some topic

theorem isChecked_of_builtin? {name : String} (known : builtin? name = some profile) :
    profile.IsChecked := by
  have member := List.mem_of_find?_eq_some known
  obtain rfl | rfl : profile = release ∨ profile = debugging := by simpa [builtin] using member
  · exact ⟨by decide, ⟨.summary, by decide⟩, nofun⟩
  · exact ⟨by decide, ⟨.summary, by decide⟩, nofun⟩

namespace IsChecked

/-- The profile that the settings choose is checked. -/
theorem chosen (checked : profile.IsChecked) (done : chosen fields profile = .ok next) :
    next.IsChecked := by
  rw [Profile.chosen] at done
  split at done
  · cases done
    exact checked
  · split at done
    · cases done
      exact checked
    · split at done
      · split at done
        · next known =>
          cases done
          exact isChecked_of_builtin? known
        · cases done
      · cases done
      · cases done
      · cases done

/-- A setting that is given leaves a profile checked if its replacement does. -/
theorem withField {name : String} {replace : Profile → Value → Except ConfigFailure Profile}
    (checked : profile.IsChecked) (done : withField fields name profile replace = .ok next)
    (keeps : ∀ value, replace profile value = .ok next → next.IsChecked) : next.IsChecked := by
  rw [Profile.withField] at done
  split at done
  · next value _ => exact keeps value done
  · cases done
    exact checked

theorem withTick (checked : profile.IsChecked) {value : Value}
    (done : withTick profile value = .ok next) : next.IsChecked := by
  rw [Profile.withTick] at done
  split at done
  · next tick _ =>
    cases done
    exact { checked with tick := le_max_left .. }
  · cases done
  · cases done

theorem withLogLevel (checked : profile.IsChecked) {value : Value}
    (done : withLogLevel profile value = .ok next) : next.IsChecked := by
  rw [Profile.withLogLevel] at done
  split at done
  · cases done
    exact { checked with }
  · cases done

theorem withStartTab (checked : profile.IsChecked) {value : Value}
    (done : withStartTab profile value = .ok next) : next.IsChecked := by
  rw [Profile.withStartTab] at done
  split at done
  · next known =>
    cases done
    obtain ⟨tab, member, named⟩ := List.mem_map.mp (List.contains_iff_mem.mp known)
    have found : (Tab.ofName? (Text.lower value.display)).isSome := by
      rw [← named, Tab.ofName?, List.find?_isSome]
      exact ⟨tab, member, decide_eq_true rfl⟩
    exact { checked with startTab := Option.isSome_iff_exists.mp found }
  · cases done

theorem withTopics (checked : profile.IsChecked) {value : Value}
    (done : withTopics profile value = .ok next) : next.IsChecked := by
  cases value with
  | null =>
    cases done
    exact checked
  | object given =>
    rw [Profile.withTopics] at done
    split at done
    · next known =>
      cases done
      refine { checked with topics := List.forall_mem_map.mpr fun field member => ?_ }
      rw [List.isEmpty_iff, List.filter_eq_nil_iff] at known
      have named := known field.1 (List.mem_map_of_mem member)
      exact Option.ne_none_iff_exists'.mp (by simpa using named)
    · cases done
  | _ => cases done

end IsChecked

/-- A profile with the settings of a configuration is checked. -/
theorem isChecked_of_configured (checked : profile.IsChecked)
    (done : configured fields profile = .ok next) : next.IsChecked := by
  obtain ⟨chosen, isChosen, done⟩ := bind_eq_ok.mp done
  obtain ⟨ticking, hasTick, done⟩ := bind_eq_ok.mp done
  obtain ⟨logging, hasLevel, done⟩ := bind_eq_ok.mp done
  obtain ⟨placed, hasDirectory, done⟩ := bind_eq_ok.mp done
  obtain ⟨opening, hasTab, hasTopics⟩ := bind_eq_ok.mp done
  replace checked := checked.chosen isChosen
  replace checked := checked.withField hasTick fun _ => checked.withTick
  replace checked := checked.withField hasLevel fun _ => checked.withLogLevel
  replace checked := checked.withField hasDirectory fun _ same => by
    cases same
    exact { checked with }
  replace checked := checked.withField hasTab fun _ => checked.withStartTab
  exact checked.withField hasTopics fun _ => checked.withTopics

/-- A profile that is resolved is checked. -/
theorem isChecked_of_resolve {tree : Tree} {name : String} {configPath? : Option String}
    (resolved : resolve tree name configPath? = .ok profile) : profile.IsChecked := by
  rw [resolve] at resolved
  split at resolved
  · cases resolved
  · next known =>
    obtain ⟨fields, -, done⟩ := bind_eq_ok.mp resolved
    exact isChecked_of_configured (isChecked_of_builtin? known) done

end Profile

/-! ## The collectors of all topics -/

namespace Collector

variable {base : Path} {patterns : Patterns} {built : List Collector}

/-- The patterns of all topics but the kernel log are usable. -/
def Patterns.AreUsable (patterns : Patterns) : Prop :=
  ∀ topic, topic ≠ .kernelLog → IsUsable (patterns.of topic)

/-- The path of the kernel log. -/
def Patterns.logPath (patterns : Patterns) (base : Path) : Path :=
  base.join (.ofText (patterns.of .kernelLog))

/-- The files that the patterns select below a directory all hold messages of their topics. -/
structure Patterns.HoldMessages (patterns : Patterns) (tree : Tree) (base : Path) : Prop where
  statuses (topic : StatusTopic) :
    Collector.HoldMessages topic.update tree base (patterns.of topic.topic)
  apps : Collector.HoldMessages Wire.appStatus tree base (patterns.of .apps)

theorem areUsable_default : Patterns.AreUsable [] := by
  intro topic other
  cases topic with
  | kernelLog => exact absurd rfl other
  | _ => decide

/-- Collectors are made of patterns that are given to topics. -/
theorem collectors_isOk (base : Path)
    (known : ∀ entry ∈ patterns, ∃ topic, Topic.ofName? entry.1 = some topic) :
    ∃ built, collectors base patterns = .ok built := by
  rw [collectors]
  split
  · next entry unknown =>
    obtain ⟨topic, named⟩ := known entry (List.mem_of_find?_eq_some unknown)
    have none := List.find?_some unknown
    simp [named] at none
  · exact ⟨_, rfl⟩

/-- What holds of all new collectors holds of one for each status topic, of that of the applications
and of that of the kernel log. -/
theorem forall_collectors (made : collectors base patterns = .ok built)
    (holds : Collector → Prop) :
    (∀ collector ∈ built, holds collector) ↔
      (∀ topic : StatusTopic, holds (.status topic ⟨base, patterns.of topic.topic, []⟩)) ∧
        holds (.apps ⟨base, patterns.of .apps, []⟩ []) ∧
        holds (.kernelLog ⟨patterns.logPath base, .unopened⟩) := by
  rw [collectors] at made
  split at made
  · cases made
  · cases made
    simp only [List.forall_mem_cons, List.not_mem_nil]
    constructor
    · rintro ⟨node, onboarding, summary, network, vault, downloader, apps, kernelLog, -⟩
      refine ⟨fun topic => ?_, apps, kernelLog⟩
      cases topic <;> assumption
    · rintro ⟨each, apps, kernelLog⟩
      exact ⟨each .node, each .onboarding, each .summary, each .network, each .vault,
        each .downloader, apps, kernelLog, nofun⟩

/-- New collectors can be polled exactly when the patterns are usable and the path of the kernel log
can be that of a log. -/
theorem ready_collectors_iff (made : collectors base patterns = .ok built) (tree : Tree) :
    (∀ collector ∈ built, collector.IsReady tree) ↔
      patterns.AreUsable ∧ KernelLog.CanBeLog tree (patterns.logPath base) := by
  have readable : KernelLog.Reader.IsReadable tree ⟨patterns.logPath base, .unopened⟩ ↔
      KernelLog.CanBeLog tree (patterns.logPath base) := by
    simp [KernelLog.Reader.IsReadable, KernelLog.Reader.IsSettled]
  rw [forall_collectors made, ← readable, ← and_assoc]
  refine and_congr_left' ⟨?_, ?_⟩
  · rintro ⟨statuses, apps⟩ topic other
    cases topic with
    | kernelLog => exact absurd rfl other
    | apps => exact apps
    | network => exact statuses .network
    | vault => exact statuses .vault
    | downloader => exact statuses .downloader
    | node => exact statuses .node
    | summary => exact statuses .summary
    | onboarding => exact statuses .onboarding
  · refine fun usable => ⟨fun topic => usable topic.topic ?_, usable .apps (by decide)⟩
    cases topic <;> decide

/-- The files that the patterns select hold messages exactly when those of the new collectors do. -/
theorem holdMessages_collectors_iff (made : collectors base patterns = .ok built) (tree : Tree) :
    (∀ collector ∈ built, collector.origin.HoldsMessages tree) ↔
      patterns.HoldMessages tree base := by
  rw [forall_collectors made fun collector => collector.origin.HoldsMessages tree]
  exact ⟨fun ⟨statuses, applications, _⟩ => ⟨statuses, applications⟩,
    fun ⟨statuses, applications⟩ => ⟨statuses, applications, trivial⟩⟩

theorem noFiles_empty (place : Place) : Tree.isFile {} place = false := by
  cases place <;> rfl

/-- Where there are no files, all hold messages. -/
theorem holdMessages_of_noFiles {tree : Tree} (noFiles : ∀ place, tree.isFile place = false)
    (patterns : Patterns) (base : Path) : patterns.HoldMessages tree base where
  statuses topic paths selected path member := by
    rw [eq_nil_of_resolve noFiles selected] at member
    exact nomatch member
  apps paths selected path member := by
    rw [eq_nil_of_resolve noFiles selected] at member
    exact nomatch member

end Collector

/-! ## Starting -/

namespace App

/-- A tick can be timed exactly when it is below a thousand times the first whole number that is out
of range. -/
theorem tickFits_iff {tickMs : Int} (positive : 0 ≤ tickMs) :
    tickFits tickMs = true ↔ tickMs < 1000 * Binary64.overflow := by
  have forward : decide (tickMs < 0) = false := decide_eq_false (by omega)
  have infinite : (∃ negative, Binary64.ofFraction false ⟨tickMs.natAbs, 1000⟩ =
      .infinite negative) ↔ Binary64.overflow * 1000 ≤ tickMs.natAbs :=
    Binary64.ofFraction_isInfinite_iff (Nat.succ_ne_zero 999)
  have least : Binary64.overflow * 1000 ≤ tickMs.natAbs ↔ ¬tickMs < 1000 * Binary64.overflow := by
    omega
  rw [tickFits, forward, ← not_iff_not, ← least, ← infinite]
  cases Binary64.ofFraction false ⟨tickMs.natAbs, 1000⟩ with
  | infinite negative => simp
  | finite negative significand exponent => simp
  | notANumber => simp

variable {H : Type}

/-- The outcomes of passes over all collectors, each in a tree of its own. -/
def collectEach (app : App H) : List Tree → List (Except Collector.Failure Nat)
  | [] => []
  | tree :: rest => (app.collectOnce tree).outcome :: (app.collectOnce tree).app.collectEach rest

/-- The outcomes of the program's passes are those of its collectors. -/
theorem collectEach_eq (app : App H) (trees : List Tree) :
    app.collectEach trees = (passes app.model app.collectors trees).map (·.outcome) := by
  induction trees generalizing app with
  | nil => rfl
  | cons tree rest inductionHypothesis =>
    rw [collectEach, inductionHypothesis]
    rfl

variable [Host H] {profile : Profile} {base : Path}

/-- The collectors of a program that is started are those of its patterns. -/
theorem collectors_of_start {app : App H} (started : start profile base = .ok app) :
    Collector.collectors base profile.topics = .ok app.collectors := by
  rw [start] at started
  split at started
  · cases started
  · split at started
    · cases started
    · next made =>
      split at started
      · cases started
        exact made
      · cases started

/-- A program with checked settings is started exactly when its tick can be timed. -/
theorem start_isOk_iff (checked : profile.IsChecked) (base : Path) :
    (∃ app : App H, start profile base = .ok app) ↔ profile.tickMs < 1000 * Binary64.overflow := by
  obtain ⟨tab, named⟩ := checked.startTab
  obtain ⟨built, made⟩ := collectors_isOk base checked.topics
  have positive : 0 ≤ profile.tickMs := le_trans (by decide) checked.tick
  rw [← tickFits_iff positive, start, named, made]
  dsimp only
  cases tickFits profile.tickMs with
  | true => exact iff_of_true ⟨_, rfl⟩ rfl
  | false => exact iff_of_false (by rintro ⟨_, ⟨⟩⟩) Bool.false_ne_true

/-- With a profile that has been resolved the program starts exactly when the tick can be timed. If
it starts, then in trees whose files hold messages, wherever the patterns of the topics select them,
its passes all go through exactly when those patterns are usable and, in the first tree, the path of
the kernel log can be that of a log. -/
theorem start_collects_iff {configuration : Tree} {name : String} {configPath? : Option String}
    (resolved : Profile.resolve configuration name configPath? = .ok profile) (base : Path) :
    ((∃ app : App H, start profile base = .ok app) ↔
      profile.tickMs < 1000 * Binary64.overflow) ∧
    ∀ app : App H, start profile base = .ok app → ∀ tree others,
      (∀ now ∈ tree :: others, profile.topics.HoldMessages now base) →
        ((∀ outcome ∈ app.collectEach (tree :: others), ∃ count, outcome = .ok count) ↔
          profile.topics.AreUsable ∧ KernelLog.CanBeLog tree (profile.topics.logPath base)) := by
  refine ⟨start_isOk_iff (Profile.isChecked_of_resolve resolved) base, ?_⟩
  intro app started tree others hold
  have made := collectors_of_start started
  rw [collectEach_eq, List.forall_mem_map, ← ready_collectors_iff made tree]
  exact passes_goThrough_iff
    (fun now member => (holdMessages_collectors_iff made now).mpr (hold now member)) app.model

/-- A tree with one status file, a summary of the applications. -/
def oneReport : Tree :=
  (Tree.write {} ⟨"/", ["run", "zedmanager", "AppInstanceSummary", "global.json"]⟩ 1
    "\x7b\"TotalRunning\": 2\x7d".toUTF8.data.toList).tree

/-- The one status file holds a message. -/
theorem oneReport_holdMessages : Patterns.HoldMessages [] oneReport ⟨"/", ["run"]⟩ where
  statuses topic := by
    cases topic with
    | summary => exact holdMessages_of_reached [_] (by decide) rfl (by decide +kernel)
    | _ => exact holdMessages_of_reached [] (by decide) (by decide +kernel) (by simp)
  apps := holdMessages_of_reached [] (by decide) (by decide +kernel) (by simp)

/-- With the settings for use the program starts, and passes go through, the first where there is
nothing to read and the second after a report has been written. -/
theorem start_collects_iff_release :
    Profile.resolve {} "release" none = .ok .release ∧
      ∃ app : App Layer, start .release ⟨"/", ["run"]⟩ = .ok app ∧
        ∀ outcome ∈ app.collectEach [{}, oneReport], ∃ count, outcome = .ok count := by
  have resolved : Profile.resolve {} "release" none = .ok .release := rfl
  obtain ⟨starts, collects⟩ := start_collects_iff (H := Layer) resolved ⟨"/", ["run"]⟩
  obtain ⟨app, started⟩ := starts.mpr (by decide +kernel)
  have missing : Tree.locate {} (Patterns.logPath [] ⟨"/", ["run"]⟩) = .error .missing := rfl
  have noLog := (KernelLog.Reader.canBeLog_of_fault missing).mpr nofun
  have hold (now : Tree) (member : now ∈ [{}, oneReport]) :
      Patterns.HoldMessages [] now ⟨"/", ["run"]⟩ := by
    obtain rfl | rfl : now = {} ∨ now = oneReport := by simpa using member
    · exact holdMessages_of_noFiles noFiles_empty [] _
    · exact oneReport_holdMessages
  exact ⟨resolved, app, started,
    (collects app started {} [oneReport] hold).mpr ⟨areUsable_default, noLog⟩⟩

/-- A file of settings with an empty pattern. -/
def withEmptyPattern : Tree where
  entries := [(["config.json"], .file 0 1)]
  contents := [(0, "\x7b\"topics\": \x7b\"vault\": \"\"\x7d\x7d".toUTF8.data.toList)]
  nextId := 1

/-- An empty pattern is accepted, and no pass goes through with it, not even where there are no
files. -/
theorem emptyPattern_not_collects :
    ∃ (profile : Profile) (app : App Layer),
      Profile.resolve withEmptyPattern "release" (some "/config.json") = .ok profile ∧
        start profile ⟨"/", ["run"]⟩ = .ok app ∧
        profile.topics.HoldMessages {} ⟨"/", ["run"]⟩ ∧
        ¬∃ count, (app.collectOnce {}).outcome = .ok count := by
  have read : (Profile.resolve withEmptyPattern "release" (some "/config.json")).toOption =
      some { Profile.release with topics := [("vault", "")] } := by
    decide +kernel
  cases resolved : Profile.resolve withEmptyPattern "release" (some "/config.json") with
  | error failure => simp [resolved, Except.toOption] at read
  | ok profile =>
    obtain rfl : profile = { Profile.release with topics := [("vault", "")] } := by
      simpa [resolved, Except.toOption] using read
    obtain ⟨app, started⟩ := (start_isOk_iff (H := Layer)
      (Profile.isChecked_of_resolve resolved) ⟨"/", ["run"]⟩).mpr (by decide +kernel)
    have made := collectors_of_start started
    have hold := holdMessages_of_noFiles noFiles_empty [("vault", "")] ⟨"/", ["run"]⟩
    refine ⟨_, app, rfl, started, hold, fun goesThrough => ?_⟩
    have ready := (collectOnce_goesThrough_iff
      ((holdMessages_collectors_iff made {}).mpr hold) app.model).mp goesThrough
    exact absurd (((ready_collectors_iff made {}).mp ready).1 .vault (by decide)) (by decide)

end App

end NodeConsole
