import Mathlib.Data.List.Nodup
import NodeConsole.Profile
import NodeConsole.Proofs.Command.Refusals
import NodeConsole.Proofs.Steps

/-!
# Settings of a profile

A profile that is resolved is a built-in one with some settings replaced: `resolve_merges`. What a
setting becomes is a relation between its own entry in the configuration, the built-in setting and
the result (`Takes`), so each setting is followed by itself. That a setting is checked, and that it
depends on nothing else, are facts about that relation.
-/

namespace NodeConsole.Profile

open NodeConsole.Collector NodeConsole.Files NodeConsole.Screen NodeConsole.Text

/-! ## What a setting becomes -/

/-- What a setting becomes: what its entry says, or the built-in setting if there is no entry. -/
def Takes {α : Type} (means : Value → α → Prop) (entry : Option Value) (given result : α) : Prop :=
  match entry with
  | some value => means value result
  | none => result = given

section Takes

variable {α : Type} {means : Value → α → Prop} {entry : Option Value} {given result : α}

theorem Takes.holds (takes : Takes means entry given result) (holds : α → Prop)
    (said : ∀ value result, means value result → holds result) (builtin : holds given) :
    holds result := by
  cases entry with
  | some value => exact said value result takes
  | none => exact takes ▸ builtin

/-- An entry makes one thing of a setting. Without an entry, the built-in settings decide. -/
theorem Takes.unique {otherGiven other : α} (takes : Takes means entry given result)
    (again : Takes means entry otherGiven other)
    (once : ∀ value first second, means value first → means value second → first = second)
    (builtin : entry = none → given = otherGiven) : result = other := by
  cases entry with
  | some value => exact once value result other takes again
  | none =>
    calc result = given := takes
      _ = otherGiven := builtin rfl
      _ = other := again.symm

end Takes

/-! ## What entries say -/

/-- The length of a tick is an integer, and no shorter than the shortest. -/
def MeansTick (value : Value) (tick : Int) : Prop :=
  ∃ number, value.toInteger = .ok number ∧ tick = max minTickMs number

/-- A level of the log goes by its name, in small or capital letters. -/
def MeansLevel (value : Value) (level : Log.Level) : Prop :=
  level.name = asciiCapitals value.display

/-- The directory of the log is any text. -/
def MeansDirectory (value : Value) (directory : String) : Prop :=
  directory = value.display

/-- A tab goes by its name, in small or capital letters. -/
def MeansTab (value : Value) (tab : String) : Prop :=
  tab = lower value.display ∧ tab ∈ Tab.all.map Tab.name

/-- Patterns are texts that are given to topics. -/
def MeansPatterns (value : Value) (patterns : Patterns) : Prop :=
  ∃ entries, value = .object entries ∧ (∀ entry ∈ entries, entry.1 ∈ Topic.all.map Topic.name) ∧
    patterns = entries.map fun entry => (entry.1, entry.2.display)

/-- The entry with the patterns. Null counts as no entry. -/
def patternsEntry (fields : Fields) : Option Value :=
  match fields.get? "topics" with
  | some .null => none
  | entry => entry

/-- A built-in profile is selected: the one that the configuration names, if it names any, and
otherwise the one that is asked for. -/
structure Selects (fields : Fields) (asked : String) (selected : Profile) : Prop where
  known : selected ∈ builtin
  named : (choice fields).isTruthy = true → choice fields = .text selected.name
  unnamed : (choice fields).isTruthy = false → selected.name = asked

/-- A profile is the selected one with the settings of a configuration. -/
structure Merges (fields : Fields) (selected profile : Profile) : Prop where
  name : profile.name = selected.name
  debug : profile.debug = selected.debug
  tick : Takes MeansTick (fields.get? "tick_ms") selected.tickMs profile.tickMs
  logLevel : Takes MeansLevel (fields.get? "log_level") selected.logLevel profile.logLevel
  logDirectory :
    Takes MeansDirectory (fields.get? "log_dir") selected.logDirectory profile.logDirectory
  startTab : Takes MeansTab (fields.get? "start_tab") selected.startTab profile.startTab
  topics : Takes MeansPatterns (patternsEntry fields) selected.topics profile.topics

/-- The settings of a profile can be used. -/
structure IsValid (profile : Profile) : Prop where
  name : profile.name ∈ builtin.map Profile.name
  tick : 50 ≤ profile.tickMs
  logLevel : profile.logLevel.name ∈ ["DEBUG", "INFO", "WARNING", "ERROR"]
  startTab : profile.startTab ∈ ["summary", "home", "network", "applications", "dmesg"]
  topics : ∀ entry ∈ profile.topics, entry.1 ∈ Topic.all.map Topic.name

/-- Two profiles have a setting in common if their configurations have the same entry for it. If
that is none, the built-in profiles that were selected decide. -/
def Shares {α : Type} (entry otherEntry : Option Value) (setting : Profile → α)
    (selected other profile otherProfile : Profile) : Prop :=
  entry = otherEntry → (entry = none → setting selected = setting other) →
    setting profile = setting otherProfile

/-- Each setting of two profiles is the same when its own entry is. -/
structure AgreeByEntries (fields others : Fields)
    (selected other profile otherProfile : Profile) : Prop where
  tick : Shares (fields.get? "tick_ms") (others.get? "tick_ms") Profile.tickMs selected other
    profile otherProfile
  logLevel : Shares (fields.get? "log_level") (others.get? "log_level") Profile.logLevel selected
    other profile otherProfile
  logDirectory : Shares (fields.get? "log_dir") (others.get? "log_dir") Profile.logDirectory
    selected other profile otherProfile
  startTab : Shares (fields.get? "start_tab") (others.get? "start_tab") Profile.startTab selected
    other profile otherProfile
  topics : Shares (patternsEntry fields) (patternsEntry others) Profile.topics selected other
    profile otherProfile

/-- The names of the entries that a configuration is asked for. -/
def entryNames : List String :=
  ["profile", "tick_ms", "log_level", "log_dir", "start_tab", "topics"]

/-! ## One setting after another -/

section Steps

variable {fields others : Fields} {profile next selected : Profile}

/-- The names of the topics are those that a topic is found for. -/
theorem mem_topicNames_iff {name : String} :
    name ∈ Topic.all.map Topic.name ↔ (Topic.ofName? name).isSome = true := by
  rw [Topic.ofName?, List.find?_isSome, List.mem_map]
  simp only [decide_eq_true_eq]

/-- A setting that is replaced by what its entry says takes that, and nothing else changes. -/
theorem takes_of_withField {α : Type} {means : Value → α → Prop} {name : String} {given : α}
    {replace : Profile → Value → Except ConfigFailure Profile} (set : α → Profile)
    (done : withField fields name profile replace = .ok next)
    (replaced : ∀ value, replace profile value = .ok next →
      ∃ result, means value result ∧ next = set result)
    (unchanged : set given = profile) :
    ∃ result, Takes means (fields.get? name) given result ∧ next = set result := by
  rw [withField] at done
  cases entry : fields.get? name with
  | some value =>
    rw [entry] at done
    exact replaced value done
  | none =>
    rw [entry] at done
    cases done
    exact ⟨given, rfl, unchanged.symm⟩

/-- A tick that is replaced is what its entry says. -/
theorem means_of_withTick {value : Value} (done : withTick profile value = .ok next) :
    ∃ tick, MeansTick value tick ∧ next = { profile with tickMs := tick } := by
  rw [withTick] at done
  cases read : value.toInteger with
  | ok number =>
    rw [read] at done
    cases done
    exact ⟨_, ⟨number, read, rfl⟩, rfl⟩
  | error fault =>
    rw [read] at done
    cases fault <;> cases done

/-- A level that is replaced is what its entry says. -/
theorem means_of_withLogLevel {value : Value} (done : withLogLevel profile value = .ok next) :
    ∃ level, MeansLevel value level ∧ next = { profile with logLevel := level } := by
  rw [withLogLevel] at done
  split at done
  · next level found =>
    cases done
    have named : level.name = asciiCapitals value.display := by simpa using List.find?_some found
    exact ⟨level, named, rfl⟩
  · cases done

theorem means_of_withDirectory {value : Value}
    (done : (.ok { profile with logDirectory := value.display } : Except ConfigFailure Profile) =
      .ok next) :
    ∃ directory, MeansDirectory value directory ∧
      next = { profile with logDirectory := directory } :=
  ⟨_, rfl, (Except.ok.inj done).symm⟩

/-- A tab that is replaced is what its entry says. -/
theorem means_of_withStartTab {value : Value} (done : withStartTab profile value = .ok next) :
    ∃ tab, MeansTab value tab ∧ next = { profile with startTab := tab } := by
  rw [withStartTab] at done
  split at done
  · next known =>
    cases done
    exact ⟨_, ⟨rfl, List.contains_iff_mem.mp known⟩, rfl⟩
  · cases done

/-- Patterns that are replaced are what their entry says. -/
theorem means_of_withTopics {value : Value} (notNull : value ≠ .null)
    (done : withTopics profile value = .ok next) :
    ∃ patterns, MeansPatterns value patterns ∧ next = { profile with topics := patterns } := by
  cases value with
  | null => exact absurd rfl notNull
  | object entries =>
    rw [withTopics] at done
    split at done
    · next known =>
      cases done
      refine ⟨_, ⟨entries, rfl, fun entry member => ?_, rfl⟩, rfl⟩
      rw [List.isEmpty_iff, List.filter_eq_nil_iff] at known
      have named := known entry.1 (List.mem_map_of_mem member)
      exact mem_topicNames_iff.mpr (by simpa [Option.isSome_iff_ne_none] using named)
    · cases done
  | _ => cases done

/-- The patterns take what their entry says, unless it is null. -/
theorem takes_patterns (done : withField fields "topics" profile withTopics = .ok next) :
    ∃ patterns, Takes MeansPatterns (patternsEntry fields) profile.topics patterns ∧
      next = { profile with topics := patterns } := by
  rw [withField] at done
  rw [patternsEntry]
  split
  · next isNull =>
    rw [isNull] at done
    cases done
    exact ⟨_, rfl, rfl⟩
  · next notNull =>
    cases entry : fields.get? "topics" with
    | none =>
      rw [entry] at done
      cases done
      exact ⟨_, rfl, rfl⟩
    | some value =>
      rw [entry] at done
      exact means_of_withTopics (fun isNull => notNull (isNull ▸ entry)) done

theorem mem_builtin_of_builtin? {name : String} (known : builtin? name = some profile) :
    profile ∈ builtin ∧ profile.name = name :=
  ⟨List.mem_of_find?_eq_some known, by simpa using List.find?_some known⟩

/-- The profile that is chosen is the one that the configuration names, or the one that is asked
for. -/
theorem selects_of_chosen {asked : String} (known : builtin? asked = some profile)
    (done : chosen fields profile = .ok selected) : Selects fields asked selected := by
  obtain ⟨member, named⟩ := mem_builtin_of_builtin? known
  rw [chosen] at done
  cases entry : fields.get? "profile" with
  | none =>
    rw [entry] at done
    cases done
    have isNull : (choice fields).isTruthy = false := by rw [choice, entry]; rfl
    exact ⟨member, fun truthy => absurd (isNull.symm.trans truthy) Bool.false_ne_true,
      fun _ => named⟩
  | some value =>
    rw [entry] at done
    have isValue : choice fields = value := by rw [choice, entry]; rfl
    cases truth : value.isTruthy with
    | false =>
      simp only [truth, Bool.not_false, if_true] at done
      cases done
      rw [← isValue] at truth
      exact ⟨member, fun truthy => absurd (truth.symm.trans truthy) Bool.false_ne_true,
        fun _ => named⟩
    | true =>
      simp only [truth, Bool.not_true, Bool.false_eq_true, if_false] at done
      cases value with
      | text name =>
        dsimp only at done
        split at done
        · next found =>
          cases done
          obtain ⟨member, named⟩ := mem_builtin_of_builtin? found
          rw [← isValue] at truth
          exact ⟨member, fun _ => by rw [isValue, named], fun falsy =>
            absurd (falsy.symm.trans truth) Bool.false_ne_true⟩
        · cases done
      | _ => cases done

/-- A profile with the settings of a configuration is a selected one with those settings. -/
theorem merges_of_configured {asked : String} (known : builtin? asked = some profile)
    (done : configured fields profile = .ok next) :
    ∃ selected, Selects fields asked selected ∧ Merges fields selected next := by
  obtain ⟨selected, isChosen, done⟩ := bind_eq_ok.mp done
  obtain ⟨ticking, hasTick, done⟩ := bind_eq_ok.mp done
  obtain ⟨logging, hasLevel, done⟩ := bind_eq_ok.mp done
  obtain ⟨placed, hasDirectory, done⟩ := bind_eq_ok.mp done
  obtain ⟨opening, hasTab, hasTopics⟩ := bind_eq_ok.mp done
  obtain ⟨tick, takesTick, rfl⟩ := takes_of_withField
    (fun tick => { selected with tickMs := tick }) hasTick (fun _ => means_of_withTick) rfl
  obtain ⟨level, takesLevel, rfl⟩ := takes_of_withField
    (fun level => { selected with tickMs := tick, logLevel := level }) hasLevel
    (fun _ => means_of_withLogLevel) rfl
  obtain ⟨directory, takesDirectory, rfl⟩ := takes_of_withField
    (fun directory =>
      { selected with tickMs := tick, logLevel := level, logDirectory := directory })
    hasDirectory (fun _ => means_of_withDirectory) rfl
  obtain ⟨tab, takesTab, rfl⟩ := takes_of_withField
    (fun tab => { selected with
      tickMs := tick, logLevel := level, logDirectory := directory, startTab := tab })
    hasTab (fun _ => means_of_withStartTab) rfl
  obtain ⟨patterns, takesPatterns, rfl⟩ := takes_patterns hasTopics
  exact ⟨selected, selects_of_chosen known isChosen,
    ⟨rfl, rfl, takesTick, takesLevel, takesDirectory, takesTab, takesPatterns⟩⟩

end Steps

/-! ## The result -/

section Result

variable {fields others : Fields} {selected other profile otherProfile : Profile} {asked : String}

theorem isValid_of_mem_builtin (member : profile ∈ builtin) : profile.IsValid := by
  obtain rfl | rfl : profile = release ∨ profile = debugging := by simpa [builtin] using member
  · exact ⟨by decide, by decide, by decide, by decide, nofun⟩
  · exact ⟨by decide, by decide, by decide, by decide, nofun⟩

/-- No more than one built-in profile is selected. -/
theorem Selects.unique (selects : Selects fields asked selected)
    (again : Selects fields asked other) : selected = other := by
  have named : selected.name = other.name := by
    cases truth : (choice fields).isTruthy with
    | true =>
      have text := (selects.named truth).symm.trans (again.named truth)
      exact Value.text.inj text
    | false => exact (selects.unnamed truth).trans (again.unnamed truth).symm
  have distinct : (builtin.map name).Nodup := by decide
  exact List.inj_on_of_nodup_map distinct selects.known again.known named

/-- A built-in profile with settings of a configuration can be used. -/
theorem Merges.isValid (merges : Merges fields selected profile)
    (selects : Selects fields asked selected) : profile.IsValid := by
  have valid := isValid_of_mem_builtin selects.known
  constructor
  case name => exact merges.name ▸ valid.name
  case tick =>
    refine merges.tick.holds _ ?_ valid.tick
    rintro value tick ⟨number, -, rfl⟩
    exact Int.le_max_left minTickMs number
  case logLevel =>
    cases profile.logLevel <;> decide
  case startTab =>
    exact merges.startTab.holds _ (fun value tab means => means.2) valid.startTab
  case topics =>
    refine merges.topics.holds (fun patterns : Patterns =>
      ∀ entry ∈ patterns, entry.1 ∈ Topic.all.map Topic.name) ?_ valid.topics
    rintro value patterns ⟨entries, -, known, rfl⟩
    exact List.forall_mem_map.mpr known

theorem level_eq_of_name {first second : Log.Level} (same : first.name = second.name) :
    first = second := by
  have distinct : (Log.Level.all.map Log.Level.name).Nodup := by decide
  have listed (level : Log.Level) : level ∈ Log.Level.all := by cases level <;> decide
  exact List.inj_on_of_nodup_map distinct (listed first) (listed second) same

/-- Each setting of a profile is the same as that of another one when its own entry is. -/
theorem Merges.agreeByEntries (merges : Merges fields selected profile)
    (again : Merges others other otherProfile) :
    AgreeByEntries fields others selected other profile otherProfile where
  tick same := merges.tick.unique (same ▸ again.tick) fun value first second means meansAgain => by
    obtain ⟨number, read, rfl⟩ := means
    obtain ⟨other, readAgain, rfl⟩ := meansAgain
    rw [Except.ok.inj (read.symm.trans readAgain)]
  logLevel same := merges.logLevel.unique (same ▸ again.logLevel)
    fun value first second means meansAgain => level_eq_of_name (means.trans meansAgain.symm)
  logDirectory same := merges.logDirectory.unique (same ▸ again.logDirectory)
    fun value first second means meansAgain => means.trans meansAgain.symm
  startTab same := merges.startTab.unique (same ▸ again.startTab)
    fun value first second means meansAgain => means.1.trans meansAgain.1.symm
  topics same := merges.topics.unique (same ▸ again.topics)
    fun value first second means meansAgain => by
      obtain ⟨entries, isObject, -, rfl⟩ := means
      obtain ⟨others, isOther, -, rfl⟩ := meansAgain
      rw [Value.object.inj (isObject.symm.trans isOther)]

theorem configured_congr (same : ∀ name ∈ entryNames, others.get? name = fields.get? name)
    (profile : Profile) : configured others profile = configured fields profile := by
  have entry (name : String) (listed : name ∈ entryNames) := same name listed
  simp only [configured, chosen, withField, entry "profile" (by decide),
    entry "tick_ms" (by decide), entry "log_level" (by decide), entry "log_dir" (by decide),
    entry "start_tab" (by decide), entry "topics" (by decide)]

/-- A profile that is resolved is a built-in one with the settings of the configuration. -/
theorem merges_of_resolve {tree : Tree} {config : Option String}
    (resolved : resolve tree asked config = .ok profile)
    (read : configFields tree config = .ok fields) :
    ∃ selected, Selects fields asked selected ∧ Merges fields selected profile := by
  rw [resolve] at resolved
  split at resolved
  · cases resolved
  · next named known =>
    rw [read] at resolved
    exact merges_of_configured known resolved

/-- A profile that is resolved can be used. It is the built-in one that the configuration names, or
else the one that is asked for, with the settings of the configuration: what each is depends on its
own entry, or on the built-in profile if there is none. Entries of other names change nothing. -/
theorem resolve_merges {tree : Tree} {config : Option String}
    (resolved : resolve tree asked config = .ok profile) :
    ∃ fields selected, configFields tree config = .ok fields ∧ Selects fields asked selected ∧
      Merges fields selected profile ∧ profile.IsValid ∧
      (∀ otherTree otherConfig others, configFields otherTree otherConfig = .ok others →
        (∀ name ∈ entryNames, others.get? name = fields.get? name) →
          resolve otherTree asked otherConfig = .ok profile) ∧
      ∀ otherTree otherAsked otherConfig otherProfile others other,
        resolve otherTree otherAsked otherConfig = .ok otherProfile →
        configFields otherTree otherConfig = .ok others → Selects others otherAsked other →
          AgreeByEntries fields others selected other profile otherProfile := by
  obtain ⟨fields, read⟩ : ∃ fields, configFields tree config = .ok fields := by
    rw [resolve] at resolved
    split at resolved
    · cases resolved
    · obtain ⟨fields, read, -⟩ := bind_eq_ok.mp resolved
      exact ⟨fields, read⟩
  obtain ⟨selected, selects, merges⟩ := merges_of_resolve resolved read
  refine ⟨fields, selected, read, selects, merges, merges.isValid selects, ?_, ?_⟩
  · intro otherTree otherConfig others readOthers same
    rw [← resolved]
    unfold resolve
    cases builtin? asked with
    | none => rfl
    | some named =>
      simp only [read, readOthers]
      exact configured_congr same named
  · intro otherTree otherAsked otherConfig otherProfile others other resolvedOther readOthers
      selectsOther
    obtain ⟨found, selectsFound, again⟩ := merges_of_resolve resolvedOther readOthers
    obtain rfl := selectsOther.unique selectsFound
    exact merges.agreeByEntries again

/-- A tree with one file of settings. -/
def withSettings (text : String) : Tree where
  entries := [(["config.json"], .file 0 1)]
  contents := [(0, text.toUTF8.data.toList)]
  nextId := 1

/-- A configuration chooses the profile for debugging, with a tick that is too short, a tab in
capital letters and patterns for a topic. -/
theorem resolve_merges_debugging :
    let tree := withSettings ("\x7b\"profile\": \"debug\", \"tick_ms\": 7, " ++
      "\"start_tab\": \"NETWORK\", \"topics\": \x7b\"vault\": \"v\"\x7d\x7d")
    let profile : Profile := { debugging with
      tickMs := 50, startTab := "network", topics := [("vault", "v")] }
    resolve tree "release" (some "/config.json") = .ok profile ∧ profile.IsValid ∧
      ∃ fields, configFields tree (some "/config.json") = .ok fields ∧
        Merges fields debugging profile := by
  intro tree profile
  have resolved : resolve tree "release" (some "/config.json") = .ok profile :=
    eq_ok_of_toOption (by decide +kernel)
  obtain ⟨fields, selected, read, selects, merges, valid, -⟩ := resolve_merges resolved
  have same : selected = debugging := by
    have named : selected.name = "debug" := merges.name.symm
    obtain rfl | rfl : selected = release ∨ selected = debugging := by
      simpa [builtin] using selects.known
    · exact absurd named (by decide)
    · rfl
  exact ⟨resolved, valid, fields, read, same ▸ merges⟩

end Result

end NodeConsole.Profile
