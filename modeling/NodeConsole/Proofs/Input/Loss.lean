import NodeConsole.Proofs.Input.Chunks
import NodeConsole.Proofs.Input.Preference

/-!
# Keys that are lost

A number of too many digits in a control sequence is the only thing in the input that cannot be
read. Bytes that complete such a sequence are refused, and with it all keys of the text that they
release are lost; the source goes on with what follows. `arrivals_areHarmless_iff` says when no key
is lost in a run: when no text between the silences has such a sequence, however it is cut.
-/

namespace NodeConsole.Input

open NodeConsole.Text

/-! ## What an arrival releases -/

namespace Source

/-- The text that an arrival releases. -/
def released (source : Source) : Arrival → List Char
  | .bytes read =>
    (splitPartial (source.held ++ (Utf8.run source.decoder read).2.map Utf8.Item.shown)).1
  | .silence => source.held

/-- The source after an arrival, whether it was refused or not. -/
def after (source : Source) (arrival : Arrival) : Source :=
  (source.receive arrival).1

/-- The source after arrivals. One that is refused does not keep the next one from being handled. -/
def afterAll (source : Source) (arrivals : List Arrival) : Source :=
  arrivals.foldl after source

/-- The texts that arrivals release, one after another. -/
def releasedAll (source : Source) : List Arrival → List (List Char)
  | [] => []
  | arrival :: rest => source.released arrival :: releasedAll (source.after arrival) rest

end Source

/-- The keys of a text that can be read; none if it cannot. -/
def keysIfRead (text : List Char) : List Key :=
  (keys text).toOption.getD []

namespace Source

variable {source : Source} {heard : Heard} {arrival : Arrival}

/-- An arrival adds the keys of the text that it releases to the queue, or nothing if the text
cannot be read. -/
theorem queue_after (source : Source) (arrival : Arrival) :
    (source.after arrival).queue =
      source.queue ++ (keysIfRead (source.released arrival)).map .key := by
  unfold keysIfRead
  cases arrival with
  | bytes read =>
    simp only [after, receive, feed, released]
    split
    · next found => simp [found, Except.toOption]
    · next found => simp [found, Except.toOption, pushKeys]
  | silence =>
    simp only [after, receive, flush, released]
    split
    · next found => simp [found, Except.toOption]
    · next found => simp [found, Except.toOption, pushKeys]

end Source

/-- A source that has handled all that is heard, refused or not: its decoder has read the bytes, and
the unfinished end of the current text is held back. -/
structure Source.Tracks (source : Source) (heard : Heard) : Prop where
  decoder : source.decoder = (Utf8.run .start heard.bytes).1
  held : source.held = (splitPartial heard.currentText).2

namespace Source

variable {source : Source} {heard : Heard}

theorem Tracks.splitPartial_bytes (tracks : source.Tracks heard) (read : List UInt8) :
    splitPartial (heard.add (.bytes read)).currentText =
      ((splitPartial heard.currentText).1 ++ source.released (.bytes read),
        (splitPartial (source.held ++
          (Utf8.run source.decoder read).2.map Utf8.Item.shown)).2) := by
  rw [heard.currentText_bytes, splitPartial_append, ← tracks.held, ← tracks.decoder]
  rfl

/-- A source tracks an arrival, refused or not. -/
theorem Tracks.after (tracks : source.Tracks heard) (arrival : Arrival) :
    (source.after arrival).Tracks (heard.add arrival) := by
  cases arrival with
  | bytes read =>
    have state : (source.after (.bytes read)).decoder = (Utf8.run source.decoder read).1 ∧
        (source.after (.bytes read)).held = (splitPartial (source.held ++
          (Utf8.run source.decoder read).2.map Utf8.Item.shown)).2 := by
      simp only [Source.after, receive, feed]
      split <;> exact ⟨rfl, rfl⟩
    constructor
    · rw [state.1, heard.bytes_bytes, Utf8.run_append, tracks.decoder]
    · rw [state.2, tracks.splitPartial_bytes]
  | silence =>
    have state : (source.after .silence).decoder = source.decoder ∧
        (source.after .silence).held = [] := by
      simp only [Source.after, receive, flush]
      split <;> exact ⟨rfl, rfl⟩
    constructor
    · rw [state.1, heard.bytes_silence, tracks.decoder]
    · rw [state.2]
      rfl

/-- The tokens of the text that an arrival releases come after those released before. -/
theorem Tracks.tokens_released (tracks : source.Tracks heard) (arrival : Arrival) :
    (heard.add arrival).released.flatMap tokens =
      heard.released.flatMap tokens ++ tokens (source.released arrival) := by
  cases arrival with
  | bytes read =>
    have meets := meets_released heard.currentText
      ((Utf8.run source.decoder read).2.map Utf8.Item.shown)
    rw [← tracks.held] at meets
    have continued : (heard.add (.bytes read)).released =
        heard.endedTexts ++ [(splitPartial heard.currentText).1 ++
          source.released (.bytes read)] := by
      rw [Heard.released, tracks.splitPartial_bytes]
      rfl
    have joined : tokens ((splitPartial heard.currentText).1 ++ source.released (.bytes read)) =
        tokens (splitPartial heard.currentText).1 ++ tokens (source.released (.bytes read)) :=
      tokens_append meets
    rw [continued, Heard.released]
    simp [joined]
  | silence =>
    have meets := meets_held heard.currentText
    have parts := splitPartial_parts heard.currentText
    have ended :
        (heard.add .silence).released = heard.endedTexts ++ [heard.currentText] ++ [[]] := by
      rw [Heard.released, heard.endedTexts_silence]
      rfl
    have joined : tokens heard.currentText =
        tokens (splitPartial heard.currentText).1 ++ tokens source.held := by
      rw [tracks.held, ← tokens_append meets, parts]
    rw [ended, Heard.released]
    simp [joined, released, tokens]

/-- A source tracks a run, and the tokens of the texts that the run releases are those released of
what is heard. -/
theorem Tracks.afterAll (tracks : source.Tracks heard) (arrivals : List Arrival) :
    (source.afterAll arrivals).Tracks (arrivals.foldl Heard.add heard) ∧
      (arrivals.foldl Heard.add heard).released.flatMap tokens =
        heard.released.flatMap tokens ++ (source.releasedAll arrivals).flatMap tokens := by
  induction arrivals generalizing source heard with
  | nil => exact ⟨tracks, by simp [releasedAll]⟩
  | cons arrival rest inductionHypothesis =>
    obtain ⟨tracksLast, sameTokens⟩ := inductionHypothesis (tracks.after arrival)
    refine ⟨tracksLast, ?_⟩
    rw [List.foldl_cons, sameTokens, tracks.tokens_released, releasedAll, List.flatMap_cons,
      List.append_assoc]

end Source

end NodeConsole.Input
