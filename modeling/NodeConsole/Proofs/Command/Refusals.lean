import NodeConsole.Command.Run

/-!
# Refused configurations

A configuration that cannot be used is meant to be refused with a message for the user and the exit
code of a usage error. Three things in the content of its file are not: nesting that is too deep, a
list or an object in place of the name of a profile, and a tick without a finite length.
`configuration_refused_iff` says that there is nothing else.
-/

namespace NodeConsole

open NodeConsole.Files NodeConsole.Decimal

/-! ## Failures that are not told -/

/-- The user is told of every failure but four kinds. -/
@[simp]
theorem ConfigFailure.usage?_eq_none_iff (failure : ConfigFailure) :
    failure.usage? = none ↔
      failure = .tickOutOfRange ∨ (∃ value, failure = .profileNotName value) ∨
        (∃ path fault, failure = .fileUnreadable path fault) ∨
          failure = .document (.notJson .nestedTooDeep) := by
  cases failure with
  | document fault =>
    cases fault with
    | notUtf8 fault => simp [usage?]
    | notJson fault => cases fault <;> simp [usage?, message?]
  | _ => simp [usage?, message?]

/-- A step fails, and the user is not told. -/
def Untold {α : Type} (step : Except ConfigFailure α) : Prop :=
  ∃ failure, step = .error failure ∧ failure.usage? = none

section Untold

variable {α β : Type}

@[simp]
theorem not_untold_ok (result : α) : ¬Untold (.ok result) := by
  rintro ⟨failure, ⟨⟩, -⟩

@[simp]
theorem untold_error (failure : ConfigFailure) :
    Untold (.error failure : Except ConfigFailure α) ↔ failure.usage? = none := by
  constructor
  · rintro ⟨_, ⟨⟩, untold⟩
    exact untold
  · exact fun untold => ⟨failure, rfl, untold⟩

/-- Two steps fail untold when the first does, or when it succeeds and the second does. -/
theorem untold_bind (first : Except ConfigFailure α) (next : α → Except ConfigFailure β) :
    Untold (first >>= next) ↔
      Untold first ∨ ∃ result, first = .ok result ∧ Untold (next result) := by
  cases first with
  | error failure =>
    change Untold (.error failure) ↔ _
    simp
  | ok result =>
    change Untold (next result) ↔ _
    simp

end Untold

/-! ## Settings -/

namespace Profile

variable (fields : Fields) (profile : Profile)

/-- What the settings say in place of the name of a profile; null if they say nothing. -/
def choice (fields : Fields) : Value :=
  (fields.get? "profile").getD .null

/-- The settings choose a built-in profile or leave the choice open. -/
def ChoosesBuiltin (fields : Fields) : Prop :=
  (choice fields).isTruthy = false ∨
    ∃ name profile, choice fields = .text name ∧ builtin? name = some profile

/-- The settings have a list or an object, and no empty one, in place of the name of a profile. -/
def ChoosesNoName (fields : Fields) : Prop :=
  (∃ item items, choice fields = .list (item :: items)) ∨
    ∃ field others, choice fields = .object (field :: others)

/-- The settings have a tick without a finite length. -/
def HasInfiniteTick (fields : Fields) : Prop :=
  ∃ negative, fields.get? "tick_ms" = some (.number (.infinite negative))

/-- A choice fails untold exactly when it is a list or an object. -/
theorem untold_chosen : Untold (chosen fields profile) ↔ ChoosesNoName fields := by
  unfold chosen ChoosesNoName choice
  cases fields.get? "profile" with
  | none => simp
  | some value =>
    cases value with
    | text name =>
      dsimp only [Option.getD_some]
      split
      · simp
      · cases builtin? name <;> simp
    | list items =>
      cases items <;> simp [Value.isTruthy]
    | object others =>
      cases others <;> simp [Value.isTruthy]
    | null => simp [Value.isTruthy]
    | _ =>
      dsimp only [Option.getD_some]
      split <;> simp

/-- A profile is chosen exactly when the settings choose a built-in one or leave the choice open. -/
theorem chosen_isOk : (∃ found, chosen fields profile = .ok found) ↔ ChoosesBuiltin fields := by
  unfold chosen ChoosesBuiltin choice
  cases fields.get? "profile" with
  | none => simp [Value.isTruthy]
  | some value =>
    dsimp only [Option.getD_some]
    cases truth : value.isTruthy with
    | false => simp
    | true =>
      cases value with
      | text name =>
        cases found : builtin? name <;> simp [found]
      | _ => simp

theorem untold_withField (name : String)
    (replace : Profile → Value → Except ConfigFailure Profile) :
    Untold (withField fields name profile replace) ↔
      ∃ value, fields.get? name = some value ∧ Untold (replace profile value) := by
  unfold withField
  cases fields.get? name <;> simp

/-- A tick fails untold exactly when it has no finite length. -/
theorem untold_withTick (value : Value) :
    Untold (withTick profile value) ↔ ∃ negative, value = .number (.infinite negative) := by
  unfold withTick
  cases value with
  | text text =>
    cases read : Text.integer? text.toList <;>
      simp [Value.toInteger, read]
  | number number =>
    cases number <;>
      simp [Value.toInteger, Binary64.truncate?]
  | _ => simp [Value.toInteger]

theorem not_untold_withLogLevel (value : Value) : ¬Untold (withLogLevel profile value) := by
  unfold withLogLevel
  split <;> simp

theorem not_untold_withStartTab (value : Value) : ¬Untold (withStartTab profile value) := by
  unfold withStartTab
  dsimp only
  split <;> simp

theorem not_untold_withTopics (value : Value) : ¬Untold (withTopics profile value) := by
  unfold withTopics
  split
  · simp
  · dsimp only
    split <;> simp
  · simp

/-- Settings fail untold when they choose no name, or else have a tick without a finite length. -/
def SettingsEscape (fields : Fields) : Prop :=
  ChoosesNoName fields ∨ ChoosesBuiltin fields ∧ HasInfiniteTick fields

/-- The settings of a configuration fail untold for the chosen name or the tick only. -/
theorem untold_configured : Untold (configured fields profile) ↔ SettingsEscape fields := by
  unfold configured SettingsEscape HasInfiniteTick
  rw [untold_bind, untold_chosen, ← chosen_isOk fields profile]
  simp only [untold_bind, untold_withField, untold_withTick, not_untold_withLogLevel,
    not_untold_withStartTab, not_untold_withTopics, not_untold_ok, and_false, exists_false,
    or_false]
  refine or_congr_right ⟨?_, ?_⟩
  · rintro ⟨found, isChosen, _, given, negative, rfl⟩
    exact ⟨⟨found, isChosen⟩, negative, given⟩
  · rintro ⟨⟨found, isChosen⟩, negative, given⟩
    exact ⟨found, isChosen, _, given, negative, rfl⟩

/-! ## Files -/

/-- What stands at the path of a configuration file cannot be read as a file. -/
def IsUnreadable (tree : Tree) (path : Path) : Prop :=
  tree.locate path = .error .nameTooLong ∨
    ∃ place, tree.locate path = .ok place ∧ tree.file? path = none

/-- The content of a configuration file fails untold when it is nested too deep, or when its
settings do. -/
def ContentEscapes (bytes : List UInt8) : Prop :=
  document bytes = .error (.notJson .nestedTooDeep) ∨
    ∃ fields, document bytes = .ok (.object fields) ∧ SettingsEscape fields

/-- A configuration fails untold when its file cannot be read, or when its content fails so. Without
a path there is no file. -/
def ConfigEscapes (tree : Tree) : Option String → Prop
  | none => False
  | some text =>
    text ≠ "" ∧
      (IsUnreadable tree (.ofText text) ∨
        ∃ id time bytes, tree.file? (.ofText text) = some (id, time, bytes) ∧ ContentEscapes bytes)

/-- A document fails untold exactly when it is nested too deep. -/
theorem untold_document (bytes : List UInt8) :
    Untold ((document bytes).mapError ConfigFailure.document) ↔
      document bytes = .error (.notJson .nestedTooDeep) := by
  cases document bytes with
  | ok value => exact iff_of_false (not_untold_ok value) nofun
  | error fault =>
    refine (untold_error (.document fault)).trans ?_
    simp

theorem not_settingsEscape_nil : ¬SettingsEscape [] := by
  simp [SettingsEscape, ChoosesNoName, HasInfiniteTick, choice, Fields.get?]

/-- The settings in the content of a file, and the profile that they make, fail untold exactly when
the content does. -/
theorem untold_content (bytes : List UInt8) :
    Untold (((document bytes).mapError ConfigFailure.document >>= fun value =>
        match value with
        | .object fields => .ok fields
        | _ => .error .notObject) >>= fun fields => configured fields profile) ↔
      ContentEscapes bytes := by
  unfold ContentEscapes
  rw [bind_assoc, untold_bind, untold_document]
  refine or_congr_right ⟨?_, ?_⟩
  · rintro ⟨value, mapped, untold⟩
    have read : document bytes = .ok value := by
      cases found : document bytes <;> rw [found] at mapped <;> cases mapped
      rfl
    cases value with
    | object fields => exact ⟨fields, read, (untold_configured fields profile).mp untold⟩
    | _ => simp [untold_bind] at untold
  · rintro ⟨fields, read, escapes⟩
    rw [read]
    exact ⟨.object fields, rfl, (untold_configured fields profile).mpr escapes⟩

/-- The settings of a file and the profile that they make fail untold exactly when the configuration
does. -/
theorem untold_configFields (tree : Tree) (config : Option String) :
    Untold (configFields tree config >>= fun fields => configured fields profile) ↔
      ConfigEscapes tree config := by
  unfold configFields ConfigEscapes
  split
  · change Untold (configured [] profile) ↔ False
    simp [untold_configured, not_settingsEscape_nil]
  · change Untold (configured [] profile) ↔ _
    simp [untold_configured, not_settingsEscape_nil]
  · next text notEmpty =>
    dsimp only
    rw [and_iff_right notEmpty]
    unfold IsUnreadable
    cases located : tree.locate (.ofText text) with
    | error fault =>
      have noFile : tree.file? (.ofText text) = none := by
        simp [Tree.file?, located, Except.toOption]
      cases fault <;> simp [noFile, untold_bind]
    | ok place =>
      cases found : tree.file? (.ofText text) with
      | none => simp [untold_bind]
      | some file =>
        obtain ⟨id, time, bytes⟩ := file
        refine (untold_content profile bytes).trans ⟨?_, ?_⟩
        · exact fun escapes => .inr ⟨id, time, bytes, rfl, escapes⟩
        · rintro ((⟨⟨⟩⟩ | ⟨_, _, ⟨⟩⟩) | ⟨_, _, _, ⟨⟩, escapes⟩)
          exact escapes

/-- A profile is resolved or refused with a message unless its name is known and its configuration
fails untold. -/
theorem untold_resolve (tree : Tree) (name : String) (config : Option String) :
    Untold (resolve tree name config) ↔
      (builtin? name).isSome ∧ ConfigEscapes tree config := by
  unfold resolve
  cases builtin? name with
  | none => simp
  | some profile => simp [untold_configFields]

end Profile

namespace Command

open NodeConsole.Files

/-- When no profile comes out of its name and its configuration, the user is told and the call ends
with the exit code of a usage error, exactly when the name is unknown or the configuration does not
fail untold: its file can be read, is not nested too deep, has no list or object in place of the
name of a profile and no tick without a finite length. -/
theorem configuration_refused_iff (tree : Tree) (environment : Environment) (input : Input)
    (clock : Time.Instant) (options : Options) (name : String) :
    (∀ failure, Profile.resolve tree name options.config = .error failure →
      ∃ message, failure.usage? = some message ∧
        runOptions tree environment input clock { options with profile := some name } =
          refused message) ↔
      Profile.builtin? name = none ∨ ¬Profile.ConfigEscapes tree options.config := by
  have agrees := Profile.untold_resolve tree name options.config
  constructor
  · intro told
    cases known : Profile.builtin? name with
    | none => exact .inl rfl
    | some profile =>
      refine .inr fun escapes => ?_
      obtain ⟨failure, failed, untold⟩ := agrees.mpr ⟨by simp [known], escapes⟩
      obtain ⟨message, isTold, -⟩ := told failure failed
      simp [untold] at isTold
  · intro usable failure failed
    cases isTold : failure.usage? with
    | none =>
      obtain ⟨known, escapes⟩ := agrees.mp ⟨failure, failed, isTold⟩
      rcases usable with unknown | usable
      · simp [unknown] at known
      · exact absurd escapes usable
    | some message =>
      exact ⟨message, rfl, by simp [runOptions, failed, isTold]⟩

/-- A file of settings whose tick has no finite length. -/
def withInfiniteTick : Tree where
  entries := [(["config.json"], .file 0 1)]
  contents := [(0, "\x7b\"tick_ms\": 1e999\x7d".toUTF8.data.toList)]
  nextId := 1

/-- A tick without a finite length makes no profile, and no call with it is refused. -/
theorem withInfiniteTick_not_refused :
    ∃ failure,
      Profile.resolve withInfiniteTick "release" (some "/config.json") = .error failure ∧
      ∀ environment input clock message,
        runOptions withInfiniteTick environment input clock
          { profile := some "release", config := some "/config.json" } ≠ refused message := by
  have untold :
      (match Profile.resolve withInfiniteTick "release" (some "/config.json") with
        | .ok _ => some ""
        | .error failure => failure.usage?) = none := by
    decide +kernel
  cases resolved : Profile.resolve withInfiniteTick "release" (some "/config.json") with
  | ok profile => simp [resolved] at untold
  | error failure =>
    refine ⟨failure, rfl, fun environment input clock message isRefused => ?_⟩
    simp only [resolved] at untold
    simp [runOptions, resolved, untold, refused, told] at isRefused

end Command

end NodeConsole
