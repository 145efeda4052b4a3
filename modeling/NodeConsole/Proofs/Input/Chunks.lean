import NodeConsole.Input.Source
import NodeConsole.Proofs.Input.Boundary

/-!
# Input in pieces

The terminal delivers bytes in pieces of any size, and is silent now and then. Only the silences
matter: `receiveAll_keys` says that the keys are those of the texts between the silences, and that
pieces without a silence between them may be regrouped freely. The invariant of a run is
`Source.Follows`; `follows_receive` is its step.
-/

namespace NodeConsole.Input

open NodeConsole.Text

/-- What the terminal does: it delivers bytes, or it is silent for so long that what is held back is
released. -/
inductive Arrival where
  | bytes (read : List UInt8)
  | silence
  deriving DecidableEq, Repr

namespace Source

/-- Handles an arrival. -/
def receive (source : Source) : Arrival → Source × Except TokenFault Unit
  | .bytes read => source.feed read
  | .silence => source.flush

/-- Handles arrivals one after another, up to the first that fails. -/
def receiveAll (source : Source) : List Arrival → Except TokenFault Source
  | [] => .ok source
  | arrival :: rest =>
    match source.receive arrival with
    | (next, .ok ()) => receiveAll next rest
    | (_, .error fault) => .error fault

/-- Bytes whose sequences can be read: the keys are queued, and the time of what is held back
runs. -/
theorem feed_eq {source : Source} {read : List UInt8} {found : List Key}
    (readable : keys (splitPartial (source.held ++
      (Utf8.run source.decoder read).2.map Utf8.Item.shown)).1 = .ok found) :
    let split := splitPartial (source.held ++
      (Utf8.run source.decoder read).2.map Utf8.Item.shown)
    source.feed read =
      ({ source with
          decoder := (Utf8.run source.decoder read).1
          held := split.2
          queue := source.queue ++ found.map .key
          timerArmed := split.2 ≠ [] }, .ok ()) := by
  simp [feed, readable, pushKeys]

theorem flush_eq {source : Source} {found : List Key} (readable : keys source.held = .ok found) :
    source.flush =
      ({ source with held := [], queue := source.queue ++ found.map .key, timerArmed := false },
        .ok ()) := by
  simp [flush, readable, pushKeys]

end Source

/-- The bytes heard so far, by the silences between them: those that a silence has ended, and the
current ones. -/
structure Heard where
  ended : List (List UInt8) := []
  current : List UInt8 := []
  deriving DecidableEq, Repr

namespace Heard

/-- Hears an arrival. -/
def add (heard : Heard) : Arrival → Heard
  | .bytes read => { heard with current := heard.current ++ read }
  | .silence => ⟨heard.ended ++ [heard.current], []⟩

/-- What is heard from arrivals. -/
def of (arrivals : List Arrival) : Heard :=
  arrivals.foldl add {}

/-- All bytes. -/
def bytes (heard : Heard) : List UInt8 :=
  heard.ended.flatten ++ heard.current

/-- The texts of stretches of bytes that follow one another. A character belongs to the stretch that
completes it. -/
def texts (decoder : Utf8.State) : List (List UInt8) → List (List Char)
  | [] => []
  | stretch :: rest =>
    (Utf8.run decoder stretch).2.map Utf8.Item.shown ::
      texts (Utf8.run decoder stretch).1 rest

/-- The text of one more stretch is decoded from where the stretches before it ended. -/
theorem texts_concat (decoder : Utf8.State) (stretches : List (List UInt8)) (last : List UInt8) :
    texts decoder (stretches ++ [last]) =
      texts decoder stretches ++
        [(Utf8.run (Utf8.run decoder stretches.flatten).1 last).2.map Utf8.Item.shown] := by
  induction stretches generalizing decoder with
  | nil => rfl
  | cons stretch rest inductionHypothesis =>
    rw [List.cons_append, texts, inductionHypothesis, List.flatten_cons, Utf8.run_append]
    rfl

/-- The texts that a silence has ended. -/
def endedTexts (heard : Heard) : List (List Char) :=
  texts .start heard.ended

/-- The current text. -/
def currentText (heard : Heard) : List Char :=
  (Utf8.run (Utf8.run .start heard.ended.flatten).1 heard.current).2.map Utf8.Item.shown

/-- The texts whose keys are known: the current one without its unfinished end. -/
def released (heard : Heard) : List (List Char) :=
  heard.endedTexts ++ [(splitPartial heard.currentText).1]

/-- The texts between the silences, the current one last. -/
def segments (heard : Heard) : List (List Char) :=
  heard.endedTexts ++ [heard.currentText]

/-- The texts of stretches together are the text of all their bytes. -/
theorem texts_flatten (decoder : Utf8.State) (stretches : List (List UInt8)) :
    (texts decoder stretches).flatten =
      (Utf8.run decoder stretches.flatten).2.map Utf8.Item.shown := by
  induction stretches generalizing decoder with
  | nil => rfl
  | cons stretch rest inductionHypothesis =>
    rw [texts, List.flatten_cons, List.flatten_cons, Utf8.run_append, inductionHypothesis,
      List.map_append]

theorem segments_flatten (heard : Heard) :
    heard.segments.flatten = (Utf8.run .start heard.bytes).2.map Utf8.Item.shown := by
  rw [segments, List.flatten_append, endedTexts, texts_flatten, bytes, Utf8.run_append,
    List.map_append, List.flatten_singleton, currentText]

theorem currentText_bytes (heard : Heard) (read : List UInt8) :
    (heard.add (.bytes read)).currentText =
      heard.currentText ++
        (Utf8.run (Utf8.run .start heard.bytes).1 read).2.map Utf8.Item.shown := by
  simp only [currentText, add, bytes, Utf8.run_append, List.map_append]

theorem endedTexts_silence (heard : Heard) :
    (heard.add .silence).endedTexts = heard.endedTexts ++ [heard.currentText] :=
  texts_concat .start heard.ended heard.current

theorem bytes_silence (heard : Heard) : (heard.add .silence).bytes = heard.bytes := by
  simp [bytes, add]

theorem bytes_bytes (heard : Heard) (read : List UInt8) :
    (heard.add (.bytes read)).bytes = heard.bytes ++ read := by
  simp [bytes, add]

end Heard

/-! ## The keys of texts -/

theorem keys_nil : keys [] = .ok [] := by
  simp [keys, tokens, pure, Except.pure]

/-- The keys of texts, one text after another. -/
def keysOfAll (texts : List (List Char)) : Except TokenFault (List Key) := do
  let found ← texts.mapM keys
  pure found.flatten

/-- The keys of one more text come last. -/
theorem keysOfAll_concat {texts : List (List Char)} {last : List Char} {pressed found : List Key}
    (before : keysOfAll texts = .ok pressed) (readable : keys last = .ok found) :
    keysOfAll (texts ++ [last]) = .ok (pressed ++ found) := by
  unfold keysOfAll at before ⊢
  cases read : texts.mapM keys with
  | error fault =>
    rw [read] at before
    exact nomatch before
  | ok lists =>
    rw [read] at before
    cases before
    simp [read, readable, bind, Except.bind, pure, Except.pure]

/-- Texts give keys exactly when all numbers of their tokens are within the limit. -/
theorem keysOfAll_isOk {texts : List (List Char)} :
    (∃ pressed, keysOfAll texts = .ok pressed) ↔
      ∀ text ∈ texts, ∀ token ∈ tokens text, token.IsWithinLimit := by
  have each : (∃ lists, texts.mapM keys = .ok lists) ↔
      ∀ text ∈ texts, ∀ token ∈ tokens text, token.IsWithinLimit := by
    rw [mapM_isOk]
    exact forall₂_congr fun _ _ => keys_isOk
  rw [← each, keysOfAll]
  cases texts.mapM keys <;> simp [bind, Except.bind, pure, Except.pure]

/-- The keys of a last text that goes on where a token ends come last. -/
theorem keysOfAll_continue {texts : List (List Char)} {last more : List Char}
    {pressed found : List Key} (before : keysOfAll (texts ++ [last]) = .ok pressed)
    (readable : keys more = .ok found) (meets : Meets last more) :
    keysOfAll (texts ++ [last ++ more]) = .ok (pressed ++ found) := by
  have whole := keysOfAll_isOk.mp ⟨pressed, before⟩
  obtain ⟨first, readFirst⟩ := keysOfAll_isOk.mpr fun text member =>
    whole text (List.mem_append_left [last] member)
  obtain ⟨lastKeys, readLast⟩ := keys_isOk.mpr
    (whole last (List.mem_append_right texts List.mem_cons_self))
  have same := keysOfAll_concat readFirst readLast
  rw [before, Except.ok.injEq] at same
  have continued : keys (last ++ more) = .ok (lastKeys ++ found) := by
    rw [keys_append meets, readLast, readable]
    rfl
  rw [keysOfAll_concat readFirst continued, same, List.append_assoc]

/-! ## The end of a text that is held back -/

/-- The end of a text that is an unfinished sequence; nothing if there is none. -/
structure IsTail (text tail : List Char) : Prop where
  isEnd : tail <:+ text
  unfinished : tail = [] ∨ IsUnfinished tail
  only : ∀ other, other <:+ text → IsUnfinished other → other = tail

/-- What is held back of a text is its unfinished end. -/
theorem isTail_splitPartial (text : List Char) : IsTail text (splitPartial text).2 where
  isEnd := ⟨(splitPartial text).1, splitPartial_parts text⟩
  unfinished := splitPartial_held text
  only := by
    induction text with
    | nil =>
      rintro other isEnd ⟨rest, rfl, -⟩
      simp at isEnd
    | cons c rest inductionHypothesis =>
      intro other isEnd unfinished
      rw [List.suffix_cons_iff] at isEnd
      simp only [splitPartial]
      split
      · next held =>
        -- The rest of an unfinished sequence has no Escape, so no other one starts in it.
        rcases isEnd with whole | isEnd
        · exact whole
        · obtain ⟨more, rfl, -⟩ := unfinished
          exact absurd (isEnd.subset List.mem_cons_self) (escape_notMem_of_isPartial held.2)
      · next notHeld =>
        rcases isEnd with rfl | isEnd
        · obtain ⟨more, same, isPartialMore⟩ := unfinished
          rw [List.cons.injEq] at same
          exact absurd ⟨same.1, same.2 ▸ isPartialMore⟩ notHeld
        · exact inductionHypothesis other isEnd unfinished

/-! ## The invariant of a run -/

theorem mem_tokens_of_released {text : List Char} {token : Token}
    (member : token ∈ tokens (splitPartial text).1) : token ∈ tokens text := by
  rw [← splitPartial_parts text, tokens_append (meets_held text)]
  exact List.mem_append_left _ member

/-- The tokens of what is released stay when more is heard. -/
theorem mem_released_add {heard : Heard} {arrival : Arrival} {text : List Char}
    (member : text ∈ heard.released) :
    ∃ later ∈ (heard.add arrival).released, ∀ token ∈ tokens text, token ∈ tokens later := by
  rw [Heard.released, List.mem_append, List.mem_singleton] at member
  cases arrival with
  | bytes read =>
    rcases member with ended | rfl
    · exact ⟨text, List.mem_append_left _ ended, fun _ => id⟩
    · refine ⟨_, List.mem_append_right _ List.mem_cons_self, fun token found => ?_⟩
      rw [Heard.currentText_bytes, splitPartial_append, tokens_append (meets_released _ _)]
      exact List.mem_append_left _ found
  | silence =>
    rw [Heard.released, Heard.endedTexts_silence, List.append_assoc]
    rcases member with ended | rfl
    · exact ⟨text, List.mem_append_left _ ended, fun _ => id⟩
    · exact ⟨heard.currentText, List.mem_append_right _ List.mem_cons_self,
        fun _ => mem_tokens_of_released⟩

/-- All numbers in what is released are within the limit. -/
def Heard.IsWithinLimit (heard : Heard) : Prop :=
  ∀ text ∈ heard.released, ∀ token ∈ tokens text, token.IsWithinLimit

/-- What was heard before is within the limit if all of it is. -/
theorem Heard.IsWithinLimit.of_foldl {heard : Heard} {arrivals : List Arrival}
    (within : (arrivals.foldl add heard).IsWithinLimit) : heard.IsWithinLimit := by
  induction arrivals generalizing heard with
  | nil => exact within
  | cons arrival rest inductionHypothesis =>
    intro text member token found
    obtain ⟨later, memberLater, stays⟩ := mem_released_add member
    exact inductionHypothesis within later memberLater token (stays token found)

/-- A source that has handled all that is heard: what is released of the texts is queued, the
unfinished end of the current text is held back, and its time runs. -/
structure Source.Follows (source : Source) (heard : Heard) : Prop where
  decoder : source.decoder = (Utf8.run .start heard.bytes).1
  held : source.held = (splitPartial heard.currentText).2
  queue : ∃ pressed, keysOfAll heard.released = .ok pressed ∧ source.queue = pressed.map .key
  noTick : source.tickQueued = false
  timer : source.timerArmed = decide (source.held ≠ [])

/-- What is heard determines the source. -/
theorem Source.Follows.unique {left right : Source} {heard : Heard}
    (followsLeft : left.Follows heard) (followsRight : right.Follows heard) : left = right := by
  obtain ⟨leftKeys, readLeft, queueLeft⟩ := followsLeft.queue
  obtain ⟨rightKeys, readRight, queueRight⟩ := followsRight.queue
  have sameHeld : left.held = right.held := followsLeft.held.trans followsRight.held.symm
  have sameKeys : leftKeys = rightKeys := Except.ok.inj (readLeft.symm.trans readRight)
  cases left
  cases right
  simp only [Source.mk.injEq]
  refine ⟨followsLeft.decoder.trans followsRight.decoder.symm, sameHeld, ?_,
    followsLeft.noTick.trans followsRight.noTick.symm, ?_⟩
  · exact queueLeft.trans ((congrArg (List.map Event.key) sameKeys).trans queueRight.symm)
  · exact followsLeft.timer.trans (by rw [sameHeld]; exact followsRight.timer.symm)

/-- A source follows what is heard through bytes. -/
theorem follows_bytes {source : Source} {heard : Heard} {read : List UInt8}
    (follows : source.Follows heard) (within : (heard.add (.bytes read)).IsWithinLimit) :
    ∃ next, source.receive (.bytes read) = (next, .ok ()) ∧
      next.Follows (heard.add (.bytes read)) := by
  obtain ⟨pressed, readable, queue⟩ := follows.queue
  have text := heard.currentText_bytes read
  have split := splitPartial_append heard.currentText
    ((Utf8.run source.decoder read).2.map Utf8.Item.shown)
  have meets := meets_released heard.currentText
    ((Utf8.run source.decoder read).2.map Utf8.Item.shown)
  rw [← follows.decoder] at text
  rw [← text, ← follows.held] at split
  rw [← follows.held] at meets
  have released : (heard.add (.bytes read)).released =
      heard.endedTexts ++ [(splitPartial heard.currentText).1 ++ (splitPartial (source.held ++
        (Utf8.run source.decoder read).2.map Utf8.Item.shown)).1] := by
    rw [Heard.released, split]
    rfl
  obtain ⟨found, readableMore⟩ := keys_isOk.mpr fun token member => by
    refine within _ (released ▸ List.mem_append_right _ List.mem_cons_self) token ?_
    rw [tokens_append meets]
    exact List.mem_append_right _ member
  refine ⟨_, Source.feed_eq readableMore, ?_⟩
  constructor
  · rw [heard.bytes_bytes, Utf8.run_append, follows.decoder]
  · rw [split]
  · refine ⟨pressed ++ found, ?_, by simp [queue]⟩
    rw [released]
    exact keysOfAll_continue readable readableMore meets
  · exact follows.noTick
  · rfl

/-- A source follows what is heard through a silence. -/
theorem follows_silence {source : Source} {heard : Heard} (follows : source.Follows heard)
    (within : (heard.add .silence).IsWithinLimit) :
    ∃ next, source.receive .silence = (next, .ok ()) ∧ next.Follows (heard.add .silence) := by
  obtain ⟨pressed, readable, queue⟩ := follows.queue
  have meets := meets_held heard.currentText
  have whole := splitPartial_parts heard.currentText
  rw [← follows.held] at meets whole
  have released :
      (heard.add .silence).released = heard.endedTexts ++ [heard.currentText] ++ [[]] := by
    rw [Heard.released, heard.endedTexts_silence]
    rfl
  obtain ⟨found, readableHeld⟩ := keys_isOk.mpr fun token member => by
    refine within heard.currentText ?_ token ?_
    · rw [released]
      simp
    · rw [← whole, tokens_append meets]
      exact List.mem_append_right _ member
  refine ⟨_, Source.flush_eq readableHeld, ?_⟩
  constructor
  · rw [heard.bytes_silence, follows.decoder]
  · rfl
  · refine ⟨pressed ++ found, ?_, by simp [queue]⟩
    have ended := keysOfAll_continue readable readableHeld meets
    rw [whole] at ended
    rw [released, ← List.append_nil (pressed ++ found)]
    exact keysOfAll_concat ended keys_nil
  · exact follows.noTick
  · rfl

/-- A source follows what is heard through a run. -/
theorem follows_receiveAll {source : Source} {heard : Heard} {arrivals : List Arrival}
    (follows : source.Follows heard) (within : (arrivals.foldl Heard.add heard).IsWithinLimit) :
    ∃ last, source.receiveAll arrivals = .ok last ∧
      last.Follows (arrivals.foldl Heard.add heard) := by
  induction arrivals generalizing source heard with
  | nil => exact ⟨source, rfl, follows⟩
  | cons arrival rest inductionHypothesis =>
    rw [List.foldl_cons] at within ⊢
    have next : ∃ next, source.receive arrival = (next, .ok ()) ∧
        next.Follows (heard.add arrival) := by
      cases arrival with
      | bytes read => exact follows_bytes follows within.of_foldl
      | silence => exact follows_silence follows within.of_foldl
    obtain ⟨next, received, followsNext⟩ := next
    obtain ⟨last, receivedRest, followsLast⟩ := inductionHypothesis followsNext within
    refine ⟨last, ?_, followsLast⟩
    rw [Source.receiveAll, received]
    exact receivedRest

/-- A new source follows nothing. -/
theorem follows_start : ({} : Source).Follows {} where
  decoder := rfl
  held := rfl
  queue := by
    have nothing : keysOfAll [] = .ok [] := rfl
    exact ⟨[], keysOfAll_concat nothing keys_nil, rfl⟩
  noTick := rfl
  timer := rfl

/-- What is released is within the limit if the texts are. -/
theorem Heard.isWithinLimit_of_segments {heard : Heard}
    (within : ∀ text ∈ heard.segments, ∀ token ∈ tokens text, token.IsWithinLimit) :
    heard.IsWithinLimit := by
  intro text member token found
  rw [released, List.mem_append, List.mem_singleton] at member
  rcases member with ended | rfl
  · exact within text (List.mem_append_left _ ended) token found
  · exact within heard.currentText (List.mem_append_right _ List.mem_cons_self) token
      (mem_tokens_of_released found)

/-- At every point of a run, the keys queued are the keys of the texts between the silences, the
current text taken without its unfinished end, which is held back while its time runs. Arrivals that
bring the same bytes between the same silences lead to the same source. -/
theorem receiveAll_keys (arrivals : List Arrival)
    (within : ∀ text ∈ (Heard.of arrivals).segments, ∀ token ∈ tokens text, token.IsWithinLimit)
    {front back : List Arrival} (point : arrivals = front ++ back) :
    let heard := Heard.of front
    heard.segments.flatten = (Utf8.run .start heard.bytes).2.map Utf8.Item.shown ∧
      ∃ source ready pressed,
        Source.receiveAll {} front = .ok source ∧
        heard.currentText = ready ++ source.held ∧
        IsTail heard.currentText source.held ∧
        (source.timerArmed = true ↔ source.held ≠ []) ∧
        keysOfAll (heard.endedTexts ++ [ready]) = .ok pressed ∧
        source.queue = pressed.map .key ∧
        ∀ regrouped, Heard.of regrouped = heard → Source.receiveAll {} regrouped = .ok source := by
  intro heard
  have withinFront : heard.IsWithinLimit := by
    have whole := Heard.isWithinLimit_of_segments within
    rw [point, Heard.of, List.foldl_append] at whole
    exact whole.of_foldl
  obtain ⟨source, received, follows⟩ := follows_receiveAll follows_start withinFront
  obtain ⟨pressed, readable, queue⟩ := follows.queue
  refine ⟨heard.segments_flatten, source, (splitPartial heard.currentText).1, pressed, received, ?_,
    ?_, ?_, readable, queue, fun regrouped same => ?_⟩
  · rw [follows.held]
    exact (splitPartial_parts heard.currentText).symm
  · rw [follows.held]
    exact isTail_splitPartial heard.currentText
  · rw [follows.timer, decide_eq_true_iff]
  · have withinRegrouped : (Heard.of regrouped).IsWithinLimit := by rwa [same]
    obtain ⟨other, receivedOther, followsOther⟩ := follows_receiveAll follows_start withinRegrouped
    have followsSame : other.Follows heard := same ▸ followsOther
    rw [receivedOther, followsSame.unique follows]

/-- A key that arrives in three pieces, then an Escape that a silence releases. -/
theorem receiveAll_keys_split :
    let arrivals : List Arrival :=
      [.bytes [0x1b], .bytes [0x5b, 0x31, 0x3b], .bytes [0x35, 0x44, 0x1b], .silence]
    let heard := Heard.of arrivals
    (∀ text ∈ heard.segments, ∀ token ∈ tokens text, token.IsWithinLimit) ∧
    heard.segments.flatten = (Utf8.run .start heard.bytes).2.map Utf8.Item.shown ∧
      ∃ source ready pressed,
        Source.receiveAll {} arrivals = .ok source ∧
        heard.currentText = ready ++ source.held ∧
        IsTail heard.currentText source.held ∧
        (source.timerArmed = true ↔ source.held ≠ []) ∧
        keysOfAll (heard.endedTexts ++ [ready]) = .ok pressed ∧
        source.queue = pressed.map .key ∧
        ∀ regrouped, Heard.of regrouped = heard → Source.receiveAll {} regrouped = .ok source := by
  intro arrivals heard
  have within : ∀ text ∈ heard.segments, ∀ token ∈ tokens text, token.IsWithinLimit := by
    decide +kernel
  exact ⟨within, receiveAll_keys arrivals within (List.append_nil arrivals).symm⟩

end NodeConsole.Input
