import NodeConsole.Proofs.App.Frames

/-!
# Notices

A notice in the status bar is shown for as many ticks as it was given, counted from when it was
notified: `run_showsNotice`. There is one count for all notices, which each of them starts anew, and
no clock has a part in it. A tick after which the bar looks different asks to draw it again.
-/

namespace NodeConsole.Screen.StatusBar

open NodeConsole.Time

variable {bar : StatusBar} {text : String} {ticks : Int} {gone : Nat}

/-- What happens to a status bar. -/
inductive Occurrence where
  | notified (text : String) (ticks : Int)
  | ticked (clock : Instant)

/-- A bar after what happened to it. -/
def after (bar : StatusBar) : Occurrence → StatusBar
  | .notified text ticks => bar.notify text ticks
  | .ticked clock => (bar.tick clock).1

/-- A bar after all that happened to it, in order. -/
def run (bar : StatusBar) (occurrences : List Occurrence) : StatusBar :=
  occurrences.foldl after bar

theorem run_append (bar : StatusBar) (before later : List Occurrence) :
    bar.run (before ++ later) = (bar.run before).run later :=
  List.foldl_append

/-! ## What does not count -/

/-- The time leaves the notice and its count as the tick made them. -/
theorem tick_eq (bar : StatusBar) (clock : Instant) :
    ∃ now, (bar.tick clock).1 = { bar.countDown.1 with now := now } := by
  unfold tick
  dsimp only
  split
  · exact ⟨_, rfl⟩
  · exact ⟨_, rfl⟩

/-- What happens to a bar leaves it with or without the keys for debugging. -/
theorem debug_after (bar : StatusBar) (occurrence : Occurrence) :
    (bar.after occurrence).debug = bar.debug := by
  cases occurrence with
  | notified text ticks => rfl
  | ticked clock =>
    obtain ⟨now, same⟩ := bar.tick_eq clock
    unfold after
    dsimp only
    rw [same]
    unfold countDown
    split
    · split
      · rfl
      · rfl
    · rfl

theorem debug_run (bar : StatusBar) (occurrences : List Occurrence) :
    (bar.run occurrences).debug = bar.debug := by
  induction occurrences generalizing bar with
  | nil => rfl
  | cons occurrence later inductionHypothesis =>
    exact (inductionHypothesis (bar.after occurrence)).trans (bar.debug_after occurrence)

/-! ## Counting down -/

/-- A bar counts down a notice that lasts some ticks, of which some have gone by. -/
structure CountsDown (bar : StatusBar) (text : String) (ticks : Int) (gone : Nat) : Prop where
  notice : bar.notice = if (gone : Int) < ticks then text else ""
  ticksLeft : bar.ticksLeft = max 0 (ticks - gone)

theorem notify_countsDown (bar : StatusBar) (text : String) (lasts : 1 ≤ ticks) :
    (bar.notify text ticks).CountsDown text ticks 0 where
  notice := (if_pos lasts).symm
  ticksLeft := by
    change ticks = _
    omega

theorem new_countsDown (debug : Bool) : ({ debug } : StatusBar).CountsDown "" 0 0 :=
  ⟨rfl, rfl⟩

/-- A tick counts as one. -/
theorem CountsDown.tick (counts : bar.CountsDown text ticks gone) (clock : Instant) :
    (bar.tick clock).1.CountsDown text ticks (gone + 1) := by
  obtain ⟨now, same⟩ := bar.tick_eq clock
  obtain ⟨notice, ticksLeft⟩ := counts
  rw [same]
  unfold countDown
  split
  · split
    · next goesOn last =>
      have ended : ¬ ((gone + 1 : Nat) : Int) < ticks := by omega
      exact ⟨(if_neg ended).symm, by dsimp only; omega⟩
    · next goesOn more =>
      have before : (gone : Int) < ticks := by omega
      have still : ((gone + 1 : Nat) : Int) < ticks := by omega
      rw [if_pos before] at notice
      exact ⟨notice.trans (if_pos still).symm, by dsimp only; omega⟩
  · next ended =>
    have before : ¬ (gone : Int) < ticks := by omega
    have still : ¬ ((gone + 1 : Nat) : Int) < ticks := by omega
    rw [if_neg before] at notice
    exact ⟨notice.trans (if_neg still).symm, by dsimp only; omega⟩

/-- Ticks count one by one. -/
theorem CountsDown.run_ticks (counts : bar.CountsDown text ticks gone) (clocks : List Instant) :
    (bar.run (clocks.map .ticked)).CountsDown text ticks (gone + clocks.length) := by
  induction clocks generalizing bar gone with
  | nil => exact counts
  | cons clock later inductionHypothesis =>
    have counted := inductionHypothesis (counts.tick clock)
    rwa [Nat.add_assoc, Nat.add_comm 1] at counted

/-! ## The latest notice -/

/-- All that happened is ticks, or there is a latest notice, with only ticks after it. -/
theorem ticks_or_latest (occurrences : List Occurrence) :
    (∃ clocks : List Instant, occurrences = clocks.map .ticked) ∨
      ∃ before text ticks, ∃ clocks : List Instant,
        occurrences = before ++ .notified text ticks :: clocks.map .ticked := by
  induction occurrences with
  | nil => exact .inl ⟨[], rfl⟩
  | cons occurrence later inductionHypothesis =>
    obtain ⟨clocks, rfl⟩ | ⟨before, text, ticks, clocks, rfl⟩ := inductionHypothesis
    · cases occurrence with
      | notified text ticks => exact .inr ⟨[], text, ticks, clocks, rfl⟩
      | ticked clock => exact .inl ⟨clock :: clocks, rfl⟩
    · exact .inr ⟨occurrence :: before, text, ticks, clocks, rfl⟩

/-- After all that happened to a new bar it shows the text of the latest notice if fewer ticks have
gone by since than it was given, and no notice otherwise. If a tick makes the bar look different, it
asks to draw it again. -/
theorem run_showsNotice (debug : Bool) (occurrences : List Occurrence)
    (lasting : ∀ text ticks, .notified text ticks ∈ occurrences → 1 ≤ ticks) :
    let bar := ({ debug } : StatusBar).run occurrences
    ((∃ clocks : List Instant, occurrences = clocks.map .ticked ∧ bar.notice = "") ∨
      ∃ before text ticks, ∃ clocks : List Instant,
        occurrences = before ++ .notified text ticks :: clocks.map .ticked ∧
          bar.notice = if (clocks.length : Int) < ticks then text else "") ∧
    bar.panel = Panel.statusBar bar.now bar.notice debug ∧
    ∀ clock, (bar.tick clock).1.panel ≠ bar.panel → (bar.tick clock).2 = some .redraw := by
  intro bar
  refine ⟨?_, ?_, fun clock differs => ?_⟩
  · obtain ⟨clocks, rfl⟩ | ⟨before, text, ticks, clocks, rfl⟩ := ticks_or_latest occurrences
    · refine .inl ⟨clocks, rfl, ?_⟩
      exact ((new_countsDown debug).run_ticks clocks).notice.trans (ite_self _)
    · refine .inr ⟨before, text, ticks, clocks, rfl, ?_⟩
      have lasts := lasting text ticks (List.mem_append_right _ List.mem_cons_self)
      let shown := ({ debug } : StatusBar).run before
      have counts := (shown.notify_countsDown text lasts).run_ticks clocks
      rw [Nat.zero_add] at counts
      have whole : bar = (shown.notify text ticks).run (clocks.map .ticked) :=
        run_append _ before _
      rw [whole]
      exact counts.notice
  · unfold panel
    rw [debug_run]
  · cases asked : (bar.tick clock).2 with
    | none => exact absurd (panel_tick asked) differs
    | some action => rw [redraw_of_tick asked]

/-- A notice in place of one that had ticks left, at a clock that stands still. -/
def overlapping : List Occurrence :=
  [.notified "first" 9, .ticked ⟨0⟩, .notified "second" 2, .ticked ⟨0⟩]

/-- The notice that came second is shown until its own ticks have gone by; the tick that ends it
asks to draw the bar again. -/
theorem run_showsNotice_overlapping :
    (∀ text ticks, .notified text ticks ∈ overlapping → 1 ≤ ticks) ∧
      let bar := ({ debug := false } : StatusBar).run overlapping
      bar.panel = Panel.statusBar (some ⟨0⟩) "second" false ∧
        (bar.tick ⟨0⟩).1.notice = "" ∧ (bar.tick ⟨0⟩).2 = some .redraw := by
  have lasting : ∀ text ticks, .notified text ticks ∈ overlapping → 1 ≤ ticks := by
    intro text ticks member
    simp only [overlapping, List.mem_cons, Occurrence.notified.injEq, reduceCtorEq,
      List.not_mem_nil, false_or, or_false] at member
    obtain ⟨-, rfl⟩ | ⟨-, rfl⟩ := member
    · decide
    · decide
  obtain ⟨-, shown, redraws⟩ := run_showsNotice false overlapping lasting
  exact ⟨lasting, shown, rfl, redraws ⟨0⟩ (by decide)⟩

end NodeConsole.Screen.StatusBar
