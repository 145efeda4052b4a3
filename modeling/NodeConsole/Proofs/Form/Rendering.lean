import NodeConsole.Proofs.Form.Lookups
import NodeConsole.Proofs.Keyed
import NodeConsole.Proofs.Layout.Parts
import NodeConsole.Proofs.Steps

/-!
# Painting the IP dialog

A dialog finds its rectangles and its widgets by their names, and a form finds its rows by their
places. Where nothing is found, painting goes on as if nothing had been asked for. Here it is also
defined in steps that fail there (`renderStrictly`). In the dialog for a port, whatever keys it has
taken, these steps never fail, and they paint what the dialog paints: `afterKeys_renderStrictly`.
-/

namespace NodeConsole.Form

open NodeConsole.Device NodeConsole.Input NodeConsole.Layout NodeConsole.Paint

/-! ## Steps that fail when nothing is found -/

/-- Why something cannot be painted: a size is too large for a 64-bit number, a number has more
digits than can be written, an area is not split in two, a rectangle or a row of a form has not been
laid out, or what is looked for is missing. -/
inductive RenderFault where
  | size
  | digits (number : Int)
  | parts (count : Nat)
  | area (name : String)
  | row (index : Nat)
  | missing (missing : Missing)
  deriving DecidableEq, Repr

/-- What has been looked for, which has to be there to be painted. -/
def demand {α : Type} (fault : RenderFault) : Option α → Except RenderFault α
  | some found => .ok found
  | none => .error fault

namespace IpForm

/-- Paints the widget of a name. -/
def renderWidgetStrictly (form : IpForm) (id : String) (area : Rect) :
    Except RenderFault (List Stroke) :=
  (demand (.missing (.widget id)) (form.form.widget? id)).map fun widget => widget.render area

/-- Paints the form. -/
def renderStrictly (form : IpForm) (area : Rect) (model : Model) :
    Except RenderFault (List Stroke) := do
  let rows := stackRows area rowHeights
  let row (index : Nat) : Except RenderFault Rect := demand (.row index) rows[index]?
  let title ← row 0
  let current ← match model.port? form.interface with
    | some port =>
      let text := "current: " ++ Panel.addressesText port.addresses
      (row 1).map fun place => [Stroke.paint place (.text (.of text "dim"))]
    | none => pure []
  let mode ← form.renderWidgetStrictly "mode" (← row 3)
  let address ← form.renderWidgetStrictly "address" (← row 4)
  let gateway ← form.renderWidgetStrictly "gateway" (← row 5)
  let dns ← form.renderWidgetStrictly "dns" (← row 6)
  let error ← if form.error = "" then pure []
    else (row 7).map fun place => [Stroke.paint place (.text (.of form.error "bold red"))]
  pure (.paint title (.text (.of ("Interface " ++ form.interface) "bold")) :: current ++
    mode ++ address ++ gateway ++ dns ++ error)

end IpForm

/-- Paints the form. -/
def Content.renderStrictly (content : Content) (area : Rect) (model : Model) :
    Except RenderFault (List Stroke) :=
  match content with
  | plain _ => .ok []
  | ipConfig form => form.renderStrictly area model

namespace Dialog

/-- Paints a button, unless its rectangle is empty. -/
def renderButtonStrictly (dialog : Dialog) (areas : Areas) (label : String) :
    Except RenderFault (List Stroke) := do
  let area ← demand (.area label) (Areas.find? areas label)
  if area.isEmpty then pure []
  else
    let widget ← demand (.missing (.widget label)) (dialog.form.widget? label)
    pure (widget.render area)

/-- Paints a dialog; nothing if the area cannot hold it. -/
def renderStrictly (dialog : Dialog) (area : Rect) (model : Model) (focused : Bool) :
    Except RenderFault (List Stroke) :=
  match dialog.layout area with
  | none => .ok []
  | some areas => do
    let frame ← demand (.area "frame") (Areas.find? areas "frame")
    let buttons ← dialog.buttons.mapM (dialog.renderButtonStrictly areas)
    let content ← demand (.area "content") (Areas.find? areas "content")
    let form ← dialog.content.renderStrictly content model
    pure (.clear frame :: .paint frame (.panel (dialog.framePanel focused)) ::
      buttons.flatten ++ form)

end Dialog

/-! ## Rectangles -/

namespace Dialog

theorem Areas.set_eq_put (areas : Areas) (name : String) (area : Rect) :
    areas.set name area = put areas name area :=
  rfl

theorem Areas.find?_set (areas : Areas) (name : String) (area : Rect) (other : String) :
    Areas.find? (areas.set name area) other =
      if other = name then some area else Areas.find? areas other := by
  unfold Areas.find?
  rw [Areas.set_eq_put, find?_put]
  split <;> rfl

/-- Names that are set, or have been before, have a rectangle. -/
theorem Areas.exists_of_sets {entries : List (String × Rect)} {areas : Areas} {name : String}
    (known : name ∈ entries.map (·.1) ∨ ∃ found, Areas.find? areas name = some found) :
    ∃ found, Areas.find?
      (entries.foldl (fun areas entry => Areas.set areas entry.1 entry.2) areas) name =
        some found := by
  induction entries generalizing areas with
  | nil => exact known.resolve_left List.not_mem_nil
  | cons entry rest inductionHypothesis =>
    refine inductionHypothesis ?_
    rw [Areas.find?_set]
    by_cases own : name = entry.1
    · exact .inr ⟨entry.2, if_pos own⟩
    · rw [if_neg own]
      rw [List.map_cons, List.mem_cons] at known
      obtain (own' | later) | before := known
      · exact absurd own' own
      · exact .inl later
      · exact .inr before

/-- A dialog that is laid out has a rectangle for its frame, its form and each of its buttons. -/
theorem find?_layout {dialog : Dialog} {area : Rect} {areas : Areas}
    (fits : dialog.layout area = some areas) {name : String}
    (named : name ∈ "frame" :: "content" :: dialog.buttons) :
    ∃ found, Areas.find? areas name = some found := by
  unfold layout at fits
  dsimp only at fits
  split at fits
  · cases fits
  · cases fits
    refine Areas.exists_of_sets ?_
    rw [List.map_fst_zip (Nat.le_of_eq (by rw [length_stackRows, List.length_map])), or_comm]
    simp only [List.mem_cons] at named
    obtain rfl | rfl | button := named
    · exact .inl ⟨_, rfl⟩
    · exact .inl ⟨_, rfl⟩
    · exact .inr button

end Dialog

/-! ## The form -/

namespace IpForm

variable {form : IpForm} {area : Rect}

theorem IsWhole.exists_widget (whole : form.IsWhole) {id : String} {kind : Kind}
    (listed : kinds.lookup id = some kind) : ∃ widget, form.form.widget? id = some widget := by
  have found := (whole.kind id).trans listed
  obtain ⟨body, found, -⟩ := Option.map_eq_some_iff.mp found
  obtain ⟨widget, found, -⟩ := Option.map_eq_some_iff.mp found
  exact ⟨widget, found⟩

theorem IsWhole.renderWidgetStrictly_eq (whole : form.IsWhole) {id : String} {kind : Kind}
    (listed : kinds.lookup id = some kind) (area : Rect) :
    form.renderWidgetStrictly id area = .ok (form.renderWidget id area) := by
  obtain ⟨widget, found⟩ := whole.exists_widget listed
  unfold renderWidgetStrictly renderWidget
  rw [found]
  rfl

theorem demand_row (area : Rect) {index : Nat} (inside : index < rowHeights.length) :
    demand (.row index) (stackRows area rowHeights)[index]? =
      .ok ((stackRows area rowHeights).getD index area) := by
  rw [← length_stackRows area] at inside
  rw [List.getD_eq_getElem?_getD, List.getElem?_eq_getElem inside]
  rfl

/-- A whole form is painted. -/
theorem IsWhole.renderStrictly_eq (whole : form.IsWhole) (area : Rect) (model : Model) :
    form.renderStrictly area model = .ok (form.render area model) := by
  have mode : kinds.lookup "mode" = some .choice := rfl
  have address : kinds.lookup "address" = some .input := rfl
  have gateway : kinds.lookup "gateway" = some .input := rfl
  have dns : kinds.lookup "dns" = some .input := rfl
  unfold renderStrictly render
  dsimp only
  rw [demand_row area (by decide), demand_row area (by decide), demand_row area (by decide),
    demand_row area (by decide), demand_row area (by decide), demand_row area (by decide),
    demand_row area (by decide)]
  simp only [bind, Except.bind, Except.map, pure, Except.pure, whole.renderWidgetStrictly_eq mode,
    whole.renderWidgetStrictly_eq address, whole.renderWidgetStrictly_eq gateway,
    whole.renderWidgetStrictly_eq dns]
  cases model.port? form.interface with
  | none =>
    dsimp only
    split <;> rfl
  | some port =>
    dsimp only
    split <;> rfl

end IpForm

/-! ## The dialog -/

namespace Dialog

/-- A key leaves the buttons of a dialog. -/
theorem buttons_handleKey (dialog : Dialog) (key : Key) :
    (dialog.handleKey key).1.buttons = dialog.buttons := by
  unfold Dialog.handleKey
  split
  · rfl
  · dsimp only
    split
    · split <;> rfl
    · rfl

theorem buttons_afterKeys (dialog : Dialog) (keys : List Key) :
    (dialog.afterKeys keys).buttons = dialog.buttons := by
  induction keys generalizing dialog with
  | nil => rfl
  | cons key rest inductionHypothesis =>
    exact (inductionHypothesis _).trans (dialog.buttons_handleKey key)

/-- A button whose widget is there is painted in an area that the dialog is laid out in. -/
theorem renderButtonStrictly_eq {dialog : Dialog} {area : Rect} {areas : Areas}
    (fits : dialog.layout area = some areas) {label : String} (member : label ∈ dialog.buttons)
    {widget : Widget} (found : dialog.form.widget? label = some widget) :
    dialog.renderButtonStrictly areas label = .ok (dialog.renderButton areas label) := by
  have named := List.mem_cons_of_mem "frame" (List.mem_cons_of_mem "content" member)
  obtain ⟨place, placed⟩ := find?_layout fits named
  unfold renderButtonStrictly renderButton
  simp only [placed, found, demand, bind, Except.bind]
  split <;> rfl

/-- The dialog for a port is painted when it asks by a form that is ready. -/
theorem Asks.renderStrictly_eq {port : Port} {form : IpForm} {dialog : Dialog}
    (asks : Asks port form dialog) (buttons : dialog.buttons = [IpForm.okLabel, cancelLabel])
    (area : Rect) (model : Model) (focused : Bool) :
    dialog.renderStrictly area model focused = .ok (dialog.render area model focused) := by
  have whole := asks.ready.toIsWhole
  have same : dialog.form = form.form := congrArg Content.form asks.content
  have widget (label : String) (member : label ∈ dialog.buttons) :
      ∃ widget, dialog.form.widget? label = some widget := by
    have listed : ∀ label ∈ [IpForm.okLabel, cancelLabel],
        IpForm.kinds.lookup label = some (.button label) := by
      decide
    rw [same]
    exact whole.exists_widget (listed label (buttons ▸ member))
  have content (place : Rect) : dialog.content.renderStrictly place model =
      .ok (dialog.content.render place model) := by
    rw [asks.content]
    exact whole.renderStrictly_eq place model
  unfold renderStrictly render
  cases fits : dialog.layout area with
  | none => rfl
  | some areas =>
    obtain ⟨frame, frameFound⟩ := find?_layout fits List.mem_cons_self
    obtain ⟨body, bodyFound⟩ :=
      find?_layout fits (List.mem_cons_of_mem _ List.mem_cons_self)
    have painted : dialog.buttons.mapM (dialog.renderButtonStrictly areas) =
        .ok (dialog.buttons.map (dialog.renderButton areas)) := by
      refine mapM_of_each fun label member => ?_
      obtain ⟨widget, found⟩ := widget label member
      exact renderButtonStrictly_eq fits member found
    simp only [frameFound, bodyFound, painted, content, demand, bind, Except.bind, pure,
      Except.pure, Option.getD_some, List.flatMap_def]

/-- Whatever keys the dialog for a port has taken, all that painting it asks for is found. -/
theorem afterKeys_renderStrictly (port : Port) (keys : List Key) (area : Rect) (model : Model)
    (focused : Bool) :
    ((ipConfig port).afterKeys keys).renderStrictly area model focused =
      .ok (((ipConfig port).afterKeys keys).render area model focused) := by
  obtain ⟨form, asks⟩ := (ipConfig_asks port).afterKeys keys
  exact asks.renderStrictly_eq (buttons_afterKeys _ keys) area model focused

end Dialog

end NodeConsole.Form
