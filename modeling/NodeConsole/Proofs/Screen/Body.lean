import NodeConsole.Proofs.Paint.Extent
import NodeConsole.Proofs.Screen.Rendering

/-!
# The body of the screen

The tab bar, the body and the status bar tile the screen, and the windows of a tab paint in the body
alone: `App.strokes_stayInBody`. Every page, the dialog, its form and its buttons divide the area
that they are given, so each of them is followed from part to part.
-/

namespace NodeConsole

open NodeConsole.Device NodeConsole.Files NodeConsole.Form NodeConsole.Input NodeConsole.Layout
  NodeConsole.Paint NodeConsole.Panel NodeConsole.Screen

/-- A stroke stays in an area: what it paints does, and what it clears is inside. -/
def Paint.Stroke.StaysIn (area : Rect) : Stroke → Prop
  | .paint target _ => target.StaysIn area
  | .clear target => target.IsInside area

namespace Paint

/-- Strokes stay in an area. -/
def StayIn (area : Rect) (strokes : List Stroke) : Prop :=
  ∀ stroke ∈ strokes, stroke.StaysIn area

variable {part area : Rect} {strokes : List Stroke}

theorem Stroke.StaysIn.rect {stroke : Stroke} (stays : stroke.StaysIn area) :
    stroke.area.StaysIn area := by
  cases stroke with
  | paint target what => exact stays
  | clear target => exact .inr stays

theorem Stroke.StaysIn.operation {stroke : Stroke} (stays : stroke.StaysIn area)
    (lines : Renderable → Rect → List Line) : (stroke.operation lines).StaysIn area := by
  cases stroke with
  | paint target what => exact stays
  | clear target => exact stays

theorem stayIn_nil (area : Rect) : StayIn area [] :=
  List.forall_mem_nil _

theorem stayIn_paint (stays : part.StaysIn area) (what : Renderable) :
    StayIn area [.paint part what] :=
  List.forall_mem_singleton.mpr stays

theorem stayIn_append {more : List Stroke} (first : StayIn area strokes)
    (second : StayIn area more) :
    StayIn area (strokes ++ more) :=
  List.forall_mem_append.mpr ⟨first, second⟩

theorem stayIn_paintPanels {parts : List Rect} (stay : ∀ part ∈ parts, part.StaysIn area)
    (panels : List Panel) : StayIn area (paintPanels panels parts) := by
  intro stroke member
  obtain ⟨⟨panel, part⟩, listed, rfl⟩ := List.mem_map.mp member
  exact stay part (List.of_mem_zip listed).2

end Paint

/-! ## Pages -/

namespace Screen

variable {area : Rect} {model : Model}

/-- The page of the summary paints in its area. -/
theorem Page.renderSummary_staysIn (notNegative : 0 ≤ area.height) {strokes : List Stroke}
    (painted : renderSummary area model = .ok strokes) : StayIn area strokes := by
  obtain ⟨downloads, -, painted⟩ := bind_eq_ok.mp painted
  dsimp only at painted
  split at painted
  · cases painted
    exact stayIn_paint (.refl area) _
  · cases painted
    refine stayIn_paintPanels (fun column member => ?_) _
    obtain ⟨row, rowListed, columnListed⟩ := List.mem_flatMap.mp member
    have inRow := splitColumns_staysIn row (by decide) column columnListed
    refine inRow.trans (stackRows_staysIn area (fun height listed => ?_) row rowListed)
    simp only [List.mem_cons, List.not_mem_nil, or_false] at listed
    omega

/-- The page with the banner paints in its area. -/
theorem Page.renderHome_staysIn (area : Rect) (model : Model) :
    StayIn area (renderHome area model) := by
  obtain ⟨banner, body, rows⟩ := inTwo_stackRows area 1 (max 0 (area.height - 1))
  obtain ⟨left, right, columns⟩ := inTwo_splitColumns body
  have heights_nonneg : ∀ height ∈ [1, max 0 (area.height - 1)], 0 ≤ height := by
    intro height listed
    simp only [List.mem_cons, List.not_mem_nil, or_false] at listed
    omega
  have inArea := stackRows_staysIn area heights_nonneg
  have inBody : ∀ column ∈ splitColumns body 2, column.StaysIn body :=
    splitColumns_staysIn body (by decide)
  rw [rows] at inArea
  rw [columns] at inBody
  have bodyInArea : body.StaysIn area := inArea body (by simp)
  unfold renderHome
  simp only [rows, columns]
  refine List.forall_mem_cons.mpr ⟨inArea banner (by simp), ?_⟩
  refine List.forall_mem_cons.mpr ⟨(inBody left (by simp)).trans bodyInArea, ?_⟩
  exact stayIn_paint ((inBody right (by simp)).trans bodyInArea) _

theorem NetworkPage.render_staysIn (page : NetworkPage) (notNegative : 0 ≤ area.height)
    (focused : Bool) : StayIn area (page.render area model focused).2 := by
  refine stayIn_paintPanels (stackRows_staysIn area fun height listed => ?_) _
  simp only [List.mem_cons, List.not_mem_nil, or_false] at listed
  omega

/-- A page paints in its area. -/
theorem Page.render_staysIn {page next : Page} (notNegative : 0 ≤ area.height) {focused : Bool}
    {strokes : List Stroke} (painted : page.render area model focused = .ok (next, strokes)) :
    StayIn area strokes := by
  cases page with
  | summary =>
    obtain ⟨found, summary, same⟩ := map_eq_ok.mp painted
    cases same
    exact renderSummary_staysIn notNegative summary
  | home =>
    cases painted
    exact renderHome_staysIn area model
  | network page =>
    cases painted
    exact page.render_staysIn notNegative focused
  | applications =>
    cases painted
    exact stayIn_paint (.refl area) _
  | kernelLog page =>
    cases painted
    exact stayIn_paint (.refl area) _

end Screen

/-! ## Dialogs -/

namespace Form

variable {area : Rect} {model : Model}

theorem Widget.render_staysIn (widget : Widget) {row : Rect} (stays : row.StaysIn area) :
    StayIn area (widget.render row) :=
  stayIn_paint stays _

namespace IpForm

theorem row_staysIn (area : Rect) (index : Nat) :
    ((stackRows area rowHeights).getD index area).StaysIn area := by
  rw [List.getD_eq_getElem?_getD]
  cases found : (stackRows area rowHeights)[index]? with
  | none => exact .refl area
  | some row => exact stackRows_staysIn area (by decide) row (List.mem_of_getElem? found)

theorem renderWidget_staysIn (form : IpForm) (id : String) {row : Rect} (stays : row.StaysIn area) :
    StayIn area (form.renderWidget id row) := by
  unfold renderWidget
  cases form.form.widget? id with
  | none => exact stayIn_nil area
  | some widget => exact widget.render_staysIn stays

/-- A form paints in the part of an area that it is given. -/
theorem render_staysIn (form : IpForm) {part : Rect} (stays : part.StaysIn area) (model : Model) :
    StayIn area (form.render part model) := by
  have row (index : Nat) := (row_staysIn part index).trans stays
  have widget (id : String) (index : Nat) := form.renderWidget_staysIn id (row index)
  unfold render
  dsimp only
  refine List.forall_mem_cons.mpr ⟨row 0, ?_⟩
  refine stayIn_append (stayIn_append (stayIn_append (stayIn_append (stayIn_append ?_
    (widget "mode" 3)) (widget "address" 4)) (widget "gateway" 5)) (widget "dns" 6)) ?_
  · split
    · exact stayIn_paint (row 1) _
    · exact stayIn_nil area
  · split
    · exact stayIn_nil area
    · exact stayIn_paint (row 7) _

end IpForm

theorem Content.render_staysIn (content : Content) {part : Rect} (stays : part.StaysIn area)
    (model : Model) : StayIn area (content.render part model) := by
  cases content with
  | plain form => exact stayIn_nil area
  | ipConfig form => exact form.render_staysIn stays model

namespace Dialog

variable {dialog : Dialog} {areas : Areas}

/-- Rectangles that are set stay in an area when they and those before do. -/
theorem Areas.sets_stayIn {entries : List (String × Rect)}
    (before : ∀ name found, Areas.find? areas name = some found → found.StaysIn area)
    (stay : ∀ entry ∈ entries, entry.2.StaysIn area) {name : String} {found : Rect}
    (listed : Areas.find?
      (entries.foldl (fun areas entry => Areas.set areas entry.1 entry.2) areas) name =
        some found) : found.StaysIn area := by
  induction entries generalizing areas with
  | nil => exact before name found listed
  | cons entry rest inductionHypothesis =>
    rw [List.forall_mem_cons] at stay
    refine inductionHypothesis (fun other rect known => ?_) stay.2 listed
    rw [Areas.find?_set] at known
    split at known
    · cases known
      exact stay.1
    · exact before other rect known

/-- A dialog is laid out in the area that it is given. -/
theorem layout_staysIn (fits : dialog.layout area = some areas) {name : String} {found : Rect}
    (listed : Areas.find? areas name = some found) : found.StaysIn area := by
  unfold layout at fits
  dsimp only at fits
  split at fits
  · cases fits
  · cases fits
    have frame : (centered dialog.width dialog.height area).StaysIn area :=
      .inr (centered_isInside _ _ area)
    have inside := (Rect.inner_staysIn (by decide : (0 : Int) ≤ 1) _).trans frame
    have content := (splitRight_left_staysIn _ (buttonWidth dialog.buttons)).trans inside
    have column := (splitRight_right_staysIn _ (buttonWidth dialog.buttons)).trans inside
    refine Areas.sets_stayIn (fun name found known => ?_) (fun entry member => ?_) listed
    · unfold Areas.find? at known
      obtain ⟨entry, member, rfl⟩ := Option.map_eq_some_iff.mp known
      have listed := List.mem_of_find?_eq_some member
      simp only [List.mem_cons, List.not_mem_nil, or_false] at listed
      obtain rfl | rfl := listed
      · exact frame
      · exact content
    · have stacked := (List.of_mem_zip member).2
      refine (stackRows_staysIn _ (fun height listed => ?_) _ stacked).trans column
      obtain ⟨label, -, rfl⟩ := List.mem_map.mp listed
      decide

/-- The frame of a dialog, none of whose buttons bears its name, is inside the area. -/
theorem frame_isInside (fits : dialog.layout area = some areas)
    (others : ∀ label ∈ dialog.buttons, label ≠ "frame") :
    ∃ frame, Areas.find? areas "frame" = some frame ∧ frame.IsInside area := by
  have kept (entries : List (String × Rect)) (areas : Areas)
      (others : ∀ entry ∈ entries, entry.1 ≠ "frame") : Areas.find?
        (entries.foldl (fun areas entry => Areas.set areas entry.1 entry.2) areas) "frame" =
          Areas.find? areas "frame" := by
    induction entries generalizing areas with
    | nil => rfl
    | cons entry rest inductionHypothesis =>
      rw [List.forall_mem_cons] at others
      refine (inductionHypothesis _ others.2).trans ?_
      rw [Areas.find?_set, if_neg (Ne.symm others.1)]
  unfold layout at fits
  dsimp only at fits
  split at fits
  · cases fits
  · cases fits
    refine ⟨_, kept _ _ fun entry member => ?_, centered_isInside _ _ area⟩
    exact others entry.1 (List.of_mem_zip member).1

/-- A button paints in the area that the dialog is laid out in. -/
theorem renderButton_staysIn (fits : dialog.layout area = some areas) (label : String) :
    StayIn area (dialog.renderButton areas label) := by
  unfold renderButton
  split
  · next place widget placed _ =>
    split
    · exact stayIn_nil area
    · exact widget.render_staysIn (layout_staysIn fits placed)
  · exact stayIn_nil area

/-- A dialog none of whose buttons bears the name of its frame paints in its area. -/
theorem render_staysIn (others : ∀ label ∈ dialog.buttons, label ≠ "frame") (area : Rect)
    (model : Model) (focused : Bool) : StayIn area (dialog.render area model focused) := by
  unfold render
  split
  · exact stayIn_nil area
  · next areas fits =>
    obtain ⟨frame, placed, inside⟩ := frame_isInside fits others
    obtain ⟨content, contentPlaced⟩ :=
      find?_layout fits (List.mem_cons_of_mem "frame" List.mem_cons_self)
    rw [placed, contentPlaced]
    refine List.forall_mem_cons.mpr ⟨inside, List.forall_mem_cons.mpr ⟨.inr inside, ?_⟩⟩
    refine stayIn_append (fun stroke member => ?_) fun stroke member => ?_
    · obtain ⟨label, -, painted⟩ := List.mem_flatMap.mp member
      exact renderButton_staysIn fits label stroke painted
    · exact dialog.content.render_staysIn (layout_staysIn fits contentPlaced) model stroke member

end Dialog

end Form

/-! ## Windows -/

namespace Screen

variable {area : Rect} {model : Model}

/-- The windows that a tab may have paint in the area that they are given. -/
theorem Holds.render_staysIn {tab : Tab} {layers : List Layer} (holds : Holds tab layers)
    {layer next : Layer} (member : layer ∈ layers) (notNegative : 0 ≤ area.height) {focused : Bool}
    {strokes : List Stroke} (painted : layer.render area model focused = .ok (next, strokes)) :
    StayIn area strokes := by
  have page {page : Page} (painted : (Layer.page page).render area model focused =
      .ok (next, strokes)) : StayIn area strokes := by
    obtain ⟨⟨found, _⟩, rendered, same⟩ := map_eq_ok.mp painted
    cases same
    exact Page.render_staysIn notNegative rendered
  cases holds with
  | page found =>
    obtain rfl := List.mem_singleton.mp member
    exact page painted
  | dialog found port keys =>
    obtain rfl | below := List.mem_cons.mp member
    · cases painted
      refine Dialog.render_staysIn (fun label listed => ?_) area model focused
      rw [Dialog.buttons_afterKeys] at listed
      have others : ∀ label ∈ [IpForm.okLabel, Dialog.cancelLabel], label ≠ "frame" := by decide
      exact others label listed
    · obtain rfl := List.mem_singleton.mp below
      exact page painted

/-- Windows paint in the area that they are given when each of them does. -/
theorem renderLayers_staysIn {layers next : List Layer} {onTop : Bool} {strokes : List Stroke}
    (each : ∀ layer ∈ layers, ∀ focused top strokes,
      layer.render area model focused = .ok (top, strokes) → StayIn area strokes)
    (painted : LayerStack.renderLayers area model onTop layers = .ok (next, strokes)) :
    StayIn area strokes := by
  induction layers generalizing next onTop strokes with
  | nil =>
    cases painted
    exact stayIn_nil area
  | cons layer below inductionHypothesis =>
    rw [List.forall_mem_cons] at each
    obtain ⟨_, _, top, _, paintedBelow, paintedTop, -, rfl⟩ := exists_of_renderLayers painted
    exact stayIn_append (inductionHypothesis each.2 paintedBelow) (each.1 _ top _ paintedTop)

/-- What an interface that is in order paints: the tab bar in its area, strokes that stay in the
body, and the status bar in its area. -/
theorem Ui.IsStacked.strokes_stayIn {ui next : Ui Layer} (stacked : ui.IsStacked)
    {strokes : List Stroke} (painted : ui.render area model = .ok (next, strokes)) :
    ∃ body, StayIn (Layout.Screen.of area).body body ∧
      strokes = .paint (Layout.Screen.of area).tabs
          (.panel (tabs (Tab.all.map Tab.title) ui.tab.index)) ::
        body ++ [.paint (Layout.Screen.of area).status (.panel ui.statusBar.panel)] := by
  obtain ⟨⟨stack, body⟩, paintedBody, painted⟩ := bind_eq_ok.mp painted
  obtain ⟨⟨layers, _⟩, paintedLayers, same⟩ := map_eq_ok.mp paintedBody
  cases same
  cases painted
  have notNegative : 0 ≤ (Layout.Screen.of area).body.height := Int.le_max_left 0 _
  refine ⟨body, renderLayers_staysIn (fun layer member focused top strokes painted => ?_)
    paintedLayers, rfl⟩
  exact (stacked ui.tab).render_staysIn member notNegative painted

theorem isBeyond_of_bar {column : Int} {row : Nat}
    (bar : (Layout.Screen.of area).tabs.Covers column row ∨
      (Layout.Screen.of area).status.Covers column row) :
    IsBeyond row (Layout.Screen.of area).body := by
  simp only [Rect.Covers, IsBeyond, Layout.Screen.of, Rect.right, Rect.bottom] at *
  omega

end Screen

/-! ## The program -/

namespace App

/-- In every state of the program, for every tab, model and size of the screen: the tab bar, the
body and the status bar tile the screen. What is painted is the tab bar in its area, then what the
windows paint, which stays in the body and so leaves the rows of both bars as they are, then the
status bar in its area. Nothing of that is missing, unless the summary fails for the size of a
download. -/
theorem strokes_stayInBody {profile : Profile} {base : Path} {first app : App Layer}
    (started : App.start profile base = .ok first) (reachable : Reachable first app) (tab : Tab)
    (model : Model) (frame : Frame) :
    let ui : Ui Layer := { app.ui with tab := tab }
    let screen := Layout.Screen.of frame.area
    frame.area.IsTiledBy [screen.tabs, screen.body, screen.status] ∧
    (ui.render frame.area model = .error ⟨⟩ ↔ tab = .summary ∧ HasHugeDownload model) ∧
    ∀ next strokes, ui.render frame.area model = .ok (next, strokes) →
      ∃ body,
        strokes = .paint screen.tabs (.panel (tabs (Tab.all.map Tab.title) tab.index)) ::
          body ++ [.paint screen.status (.panel ui.statusBar.panel)] ∧
        (∀ stroke ∈ body, stroke.area.StaysIn screen.body) ∧
        ∀ lines (painted : Frame) (column : Int) (row : Nat),
          screen.tabs.Covers column row ∨ screen.status.Covers column row →
          (painted.performAll (body.map (Stroke.operation lines))).rows[row]? =
            painted.rows[row]? := by
  intro ui screen
  have stacked : ui.IsStacked :=
    ((isOrderly_start started).of_reachable reachable).stacked.of_layers rfl
  refine ⟨Layout.Screen.isTiledBy_of frame.area, stacked.render_fails_iff frame.area, ?_⟩
  intro next strokes painted
  obtain ⟨body, stays, same⟩ := stacked.strokes_stayIn painted
  refine ⟨body, same, fun stroke member => (stays stroke member).rect, ?_⟩
  intro lines painted column row bar
  refine Frame.rows_performAll (fun operation member => ?_) (isBeyond_of_bar bar)
  obtain ⟨stroke, listed, rfl⟩ := List.mem_map.mp member
  exact (stays stroke listed).operation lines

/-- A dialog over the page with the ports is painted in a screen that has no room for its last
button, and what it paints stays in the body. -/
theorem strokes_stayInBody_dialog :
    let first : App Layer := { onePort with ui := .withPages false .network, model := {} }
    let edited := (onePort.process ⟨0⟩ (.key (.plain "enter"))).1
    let frame := Frame.ofSize 66 11
    App.start { Profile.release with startTab := "network" } ⟨"/", ["run"]⟩ = .ok first ∧
      Reachable first edited ∧
      ∃ next strokes, edited.ui.render frame.area onePort.model = .ok (next, strokes) ∧
        .clear ⟨1, 3, 64, 5⟩ ∈ strokes ∧
        ∃ bar body status, strokes = bar :: body ++ [status] ∧ bar.area = ⟨0, 0, 66, 3⟩ ∧
          status.area = ⟨0, 8, 66, 3⟩ ∧ ∀ stroke ∈ body, stroke.area.StaysIn ⟨0, 3, 66, 5⟩ := by
  intro first edited frame
  have started : App.start { Profile.release with startTab := "network" } ⟨"/", ["run"]⟩ =
      .ok first := by rfl
  have collected : Step first { first with model := onePort.model } :=
    .collected first onePort.model first.collectors
  have drawn : Step { first with model := onePort.model } onePort := .drawn 80 24 _ rfl
  have pressed : Step onePort edited := .processed ⟨0⟩ (.key (.plain "enter")) true rfl
  have reachable := ((Reachable.started.step collected).step drawn).step pressed
  have painted : ∃ next strokes,
      edited.ui.render frame.area onePort.model = .ok (next, strokes) ∧
        .clear ⟨1, 3, 64, 5⟩ ∈ strokes :=
    ⟨_, _, rfl, by decide⟩
  obtain ⟨next, strokes, painted, cleared⟩ := painted
  have stays := (strokes_stayInBody started reachable edited.ui.tab onePort.model frame).2.2
  obtain ⟨body, same, stays, -⟩ := stays next strokes painted
  exact ⟨started, reachable, next, strokes, painted, cleared, _, body, _, same, rfl, rfl, stays⟩

end App

end NodeConsole
