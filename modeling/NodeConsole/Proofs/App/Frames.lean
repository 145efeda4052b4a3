import NodeConsole.Proofs.App.Delivery

/-!
# Frames

The screen is drawn again only when processing an event says that this is due. `frames_areCurrent`
says that nothing is missed: if it is not due, the same would be painted as before the event. And
what is drawn is drawn in the same way again, although pages take note of the model when they are
painted.
-/

namespace NodeConsole

open NodeConsole.Device NodeConsole.Form NodeConsole.Input NodeConsole.Layout NodeConsole.Paint
  NodeConsole.Panel NodeConsole.Screen NodeConsole.Time

namespace Screen

/-! ## Painting twice -/

/-- A page that has seen the ports of a model learns nothing from them again. -/
theorem NetworkPage.seeing_seeing (page : NetworkPage) (model : Model) :
    (page.seeing model).seeing model = page.seeing model := by
  unfold seeing
  dsimp only
  split
  · rfl
  · rw [Nat.min_assoc, Nat.min_self]

theorem KernelLogPage.seeing_seeing (page : KernelLogPage) (model : Model) :
    (page.seeing model).seeing model = page.seeing model := by
  unfold seeing
  dsimp only
  rw [Nat.min_assoc, Nat.min_self]

/-- A page that has been painted is painted in the same way again. -/
theorem Page.render_again {page next : Page} {area : Rect} {model : Model} {focused : Bool}
    {strokes : List Stroke} (painted : page.render area model focused = .ok (next, strokes)) :
    next.render area model focused = .ok (next, strokes) := by
  cases page with
  | summary =>
    obtain ⟨_, rendered, same⟩ := map_eq_ok.mp painted
    cases same
    exact painted
  | home =>
    cases painted
    rfl
  | network page =>
    cases painted
    simp only [Page.render, NetworkPage.render, NetworkPage.seeing_seeing]
  | applications =>
    cases painted
    rfl
  | kernelLog page =>
    cases painted
    simp only [Page.render, KernelLogPage.render, KernelLogPage.seeing_seeing]

/-- A window that has been painted is painted in the same way again. -/
theorem Layer.render_again {layer next : Layer} {area : Rect} {model : Model} {focused : Bool}
    {strokes : List Stroke} (painted : layer.render area model focused = .ok (next, strokes)) :
    next.render area model focused = .ok (next, strokes) := by
  cases layer with
  | page page =>
    obtain ⟨⟨found, _⟩, rendered, same⟩ := map_eq_ok.mp painted
    cases same
    simp only [Layer.render, Page.render_again rendered]
    rfl
  | dialog dialog =>
    cases painted
    rfl

/-- Windows that have been painted are painted in the same way again. -/
theorem renderLayers_again {layers next : List Layer} {area : Rect} {model : Model} {onTop : Bool}
    {strokes : List Stroke}
    (painted : LayerStack.renderLayers area model onTop layers = .ok (next, strokes)) :
    LayerStack.renderLayers area model onTop next = .ok (next, strokes) := by
  induction layers generalizing next onTop strokes with
  | nil =>
    cases painted
    rfl
  | cons layer layers inductionHypothesis =>
    obtain ⟨below, strokesBelow, top, strokesTop, paintedBelow, paintedTop, rfl, rfl⟩ :=
      exists_of_renderLayers painted
    rw [renderLayers_cons, inductionHypothesis paintedBelow, Layer.render_again paintedTop]
    rfl

/-- An interface that has been painted is painted in the same way again. -/
theorem Ui.render_again {ui next : Ui Layer} {area : Rect} {model : Model} {strokes : List Stroke}
    (painted : ui.render area model = .ok (next, strokes)) :
    next.render area model = .ok (next, strokes) := by
  obtain ⟨⟨stack, strokesBody⟩, paintedBody, painted⟩ := bind_eq_ok.mp painted
  obtain ⟨⟨layers, _⟩, paintedLayers, same⟩ := map_eq_ok.mp paintedBody
  cases same
  cases painted
  have again : (⟨layers⟩ : LayerStack Layer).render (Layout.Screen.of area).body model =
      .ok (⟨layers⟩, strokesBody) := by
    unfold LayerStack.render
    rw [renderLayers_again paintedLayers]
    rfl
  simp only [Ui.render, ui.active_setActive, again, ui.setActive_setActive, bind, Except.bind]
  rfl

/-! ## Ticks that change nothing -/

/-- A status bar that does not ask to be drawn again shows what it showed before. -/
theorem StatusBar.panel_tick {bar : StatusBar} {clock : Instant}
    (silent : (bar.tick clock).2 = none) : (bar.tick clock).1.panel = bar.panel := by
  have counted : bar.countDown.2 = false → bar.countDown.1.panel = bar.panel := by
    intro goesOn
    unfold countDown at goesOn ⊢
    split at goesOn
    · split at goesOn
      · contradiction
      · next more one => rw [if_pos more, if_neg one]; rfl
    · next none => rw [if_neg none]
  unfold StatusBar.tick at silent ⊢
  dsimp only at silent ⊢
  split at silent
  · next same =>
    rw [if_pos same]
    refine counted ?_
    split at silent
    · contradiction
    · next goesOn => exact Bool.eq_false_iff.mpr goesOn
  · contradiction

/-- What is painted of an interface is what its selected tab and its status bar show. -/
theorem Ui.strokes_congr {ui other : Ui Layer} (tab : other.tab = ui.tab)
    (active : other.active = ui.active) (bar : other.statusBar.panel = ui.statusBar.panel)
    (area : Rect) (model : Model) :
    (other.render area model).map (·.2) = (ui.render area model).map (·.2) := by
  unfold Ui.render
  dsimp only
  rw [tab, active, bar]
  generalize ui.active.render (Layout.Screen.of area).body model = painted
  cases painted with
  | error failure => rfl
  | ok painted => rfl

end Screen

namespace App

/-- What the program would paint of a model. -/
def frameOf (app : App Layer) (model : Model) (width height : Int) :
    Except SizeOutOfRange (List Stroke) :=
  (({ app with model := model } : App Layer).draw width height).map (·.2)

variable {app next : App Layer} {clock : Instant} {event : Event}

/-- What is painted of a program is what its interface paints. -/
theorem frameOf_eq (app : App Layer) (model : Model) (width height : Int) :
    app.frameOf model width height =
      (app.ui.render ⟨0, 0, max 0 width, max 0 height⟩ model).map (·.2) := by
  unfold frameOf draw
  dsimp only
  generalize app.ui.render ⟨0, 0, max 0 width, max 0 height⟩ model = painted
  cases painted with
  | error failure => rfl
  | ok painted => rfl

/-- If no frame is due, a tick has been processed that nothing was sent by. -/
theorem tick_of_undue (processed : app.process clock event = (next, .ok false)) :
    event = .tick ∧ (app.ui.tick clock).sent = [] ∧ next.ui = (app.ui.tick clock).ui := by
  obtain ⟨handled, routed, carriedOut⟩ := exists_of_process processed
  have reported := due_of_process processed routed
  dsimp only at reported
  have undue := (Action.due_iff _ _).not.mp (Bool.eq_false_iff.mp reported.symm)
  rw [not_or, not_not] at undue
  obtain ⟨noKey, nothing⟩ := undue
  rw [nothing] at carriedOut
  cases carriedOut
  cases event with
  | key key => contradiction
  | tick =>
    cases routed
    simp only [List.append_eq_nil_iff] at nothing
    exact ⟨rfl, nothing.1.2, rfl⟩
  | foreign value => contradiction

/-- If no frame is due, the interface shows what it showed before. -/
theorem frameOf_of_undue (processed : app.process clock event = (next, .ok false)) (model : Model)
    (width height : Int) : next.frameOf model width height = app.frameOf model width height := by
  obtain ⟨rfl, silent, same⟩ := tick_of_undue processed
  unfold Ui.tick at silent same
  rw [app.ui.active.tick_eq] at silent same
  rw [frameOf_eq, frameOf_eq, same]
  have bar : (app.ui.statusBar.tick clock).2 = none := Option.toList_eq_nil_iff.mp silent
  refine Ui.strokes_congr ?_ ?_ ?_ _ model
  · rfl
  · exact app.ui.active_setActive _
  · exact StatusBar.panel_tick bar

theorem draw_again {width height : Int} {strokes : List Stroke}
    (drawn : app.draw width height = .ok (next, strokes)) :
    next.draw width height = .ok (next, strokes) := by
  obtain ⟨⟨ui, _⟩, painted, same⟩ := bind_eq_ok.mp drawn
  cases same
  simp only [draw, Ui.render_again painted, bind, Except.bind]
  rfl

/-- In every state of the program: if processing an event says that no frame is due, then of every
model and in every size the same is painted after it as before it, or fails to be. And drawing a
model twice paints the same both times, and the second time changes nothing. -/
theorem frames_areCurrent (app : App Layer) :
    (∀ clock event next, app.process clock event = (next, .ok false) →
      ∀ model width height, next.frameOf model width height = app.frameOf model width height) ∧
    ∀ model width height next strokes,
      { app with model := model }.draw width height = .ok (next, strokes) →
        next.draw width height = .ok (next, strokes) :=
  ⟨fun _ _ _ processed => frameOf_of_undue processed, fun _ _ _ _ _ drawn => draw_again drawn⟩

/-- After a notice, a second tick in the same second is not to be drawn: the notice is shown for
fewer ticks, but the frame stays. -/
theorem frames_areCurrent_notice :
    let shown := (({ onePort with ui := onePort.ui.notify "left" } : App Layer).process ⟨0⟩ .tick).1
    let next := (shown.process ⟨0⟩ .tick).1
    shown.process ⟨0⟩ .tick = (next, .ok false) ∧ next.ui.statusBar ≠ shown.ui.statusBar ∧
      next.frameOf onePort.model 80 24 = shown.frameOf onePort.model 80 24 ∧
        ∃ drawn strokes, { shown with model := onePort.model }.draw 80 24 = .ok (drawn, strokes) ∧
          drawn.draw 80 24 = .ok (drawn, strokes) := by
  intro shown next
  have processed : shown.process ⟨0⟩ .tick = (next, .ok false) := rfl
  have current := frames_areCurrent shown
  refine ⟨processed, by decide, current.1 _ _ _ processed _ _ _, ?_⟩
  have drawn : ∃ result, { shown with model := onePort.model }.draw 80 24 = .ok result := ⟨_, rfl⟩
  obtain ⟨⟨drawn, strokes⟩, outcome⟩ := drawn
  exact ⟨drawn, strokes, outcome, current.2 _ _ _ _ _ outcome⟩

end App

end NodeConsole
