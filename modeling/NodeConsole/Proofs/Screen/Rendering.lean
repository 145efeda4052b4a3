import Mathlib.Algebra.Group.Int.Defs
import NodeConsole.Proofs.App.Running
import NodeConsole.Proofs.Decimal.Range
import NodeConsole.Proofs.Device.Numbers
import NodeConsole.Proofs.Form.Rendering
import NodeConsole.Proofs.Paint.Integrity

/-!
# Painting the screen

Painting writes numbers in digits and in units, splits areas into parts and looks for ports, areas
and widgets. Here it is also defined in steps that fail where a number cannot be written or
something is not there (`Ui.renderStrictly`). In every state of the program, and of a model that has
been told only of what has been read, these steps fail in one case alone: the summary is selected,
and the downloader reports a size that is out of range of a 64-bit number
(`App.rendering_fails_iff`).
-/

namespace NodeConsole

open NodeConsole.Decimal NodeConsole.Device NodeConsole.Form NodeConsole.Layout NodeConsole.Paint
  NodeConsole.Panel NodeConsole.Screen NodeConsole.Wire

/-! ## Numbers in digits -/

namespace Wire.Coded

variable {State : Type}

/-- The numbers in the label of a coded state: that of a state without a name. -/
def numbers : Coded State → List Int
  | known _ => []
  | other code => [code]

/-- The numbers in the label of a state that can be written can be. -/
theorem IsWritable.numbers {coded : Coded State} (writable : coded.IsWritable) :
    ∀ number ∈ coded.numbers, Text.IsWritable number := by
  intro number member
  cases coded with
  | known state => cases member
  | other code =>
    rw [List.mem_singleton.mp member]
    exact writable code rfl

/-- The number of a mode that can be written can be; known modes have one digit. -/
theorem IsWritable.number {mode : Coded DhcpMode} (writable : mode.IsWritable) :
    Text.IsWritable mode.number := by
  cases mode with
  | known state =>
    have small : (Codes.code state : Int).natAbs < 10 ^ 1 := by
      cases state <;> decide
    exact Text.isWritable_of_lt (by decide) small
  | other code => exact writable code rfl

end Wire.Coded

namespace Panel

/-- Writes numbers in digits. -/
def write : List Int → Except RenderFault Unit
  | [] => .ok ()
  | number :: rest => if Text.IsWritable number then write rest else .error (.digits number)

/-- Numbers that can be written are. -/
theorem write_eq {numbers : List Int} (all : ∀ number ∈ numbers, Text.IsWritable number) :
    write numbers = .ok () := by
  induction numbers with
  | nil => rfl
  | cons number rest inductionHypothesis =>
    rw [List.forall_mem_cons] at all
    rw [write, if_pos all.1]
    exact inductionHypothesis all.2

/-- The numbers on the panel of the summary. -/
def summaryNumbers (summary : AppSummary) : List Int :=
  [summary.running, summary.starting, summary.stopping, summary.error]

/-- The numbers on the panel of the vault. -/
def vaultNumbers : Vault → List Int
  | .locked _ (some registers) => registers.filterMap fun
    | .index number => some number
    | .flag _ => none
  | _ => []

/-- The numbers on the panel of the downloader, apart from its sizes. -/
def downloadNumbers : Option DownloadStatus → List Int
  | some status => status.state.numbers ++ [status.progress]
  | none => []

/-- The numbers on the panel of applications. -/
def appNumbers (shown : List Device.App) : List Int :=
  shown.flatMap fun app => app.state.code.numbers

/-- The numbers on the panels of ports. -/
def portNumbers (ports : List Port) : List Int :=
  ports.map (·.dhcp.number)

/-- The numbers on the panel of the kernel log: how far it is scrolled back, and the seconds of the
records that are shown. -/
def kernelLogNumbers (records : List KernelRecord) (height scroll : Int) : List Int :=
  scroll :: (visibleRecords records (max 0 (height - 2)) scroll).map fun record =>
    ((record.micros.toNat / 1000000 : Nat) : Int)

end Panel

/-! ## Painting in steps that fail -/

/-- A size that is too large as a fault of painting. -/
def Form.RenderFault.ofSize (_ : SizeOutOfRange) : RenderFault :=
  .size

namespace Screen

/-- The two parts of an area. -/
def inTwo : List Rect → Except RenderFault (Rect × Rect)
  | [first, second] => .ok (first, second)
  | parts => .error (.parts parts.length)

/-- Paints the page of the summary. -/
def Page.renderSummaryStrictly (area : Rect) (model : Model) :
    Except RenderFault (List Stroke) := do
  write (vaultNumbers model.vault)
  write (summaryNumbers model.node.summary)
  write (downloadNumbers model.downloader)
  let downloads ← (downloader model.downloader).mapError .ofSize
  let panels := [node model.node, vault model.vault, appSummary model.node.summary, downloads]
  if Mode.of area.width = .narrow then pure [.paint area (.group panels)]
  else
    let (top, bottom) ← inTwo (stackRows area [area.height / 2, area.height - area.height / 2])
    pure (paintPanels panels (splitColumns top 2 ++ splitColumns bottom 2))

/-- Paints the page with the banner, the ports for management and the applications. -/
def Page.renderHomeStrictly (area : Rect) (model : Model) : Except RenderFault (List Stroke) := do
  let (banner, body) ← inTwo (stackRows area [1, max 0 (area.height - 1)])
  let (left, right) ← inTwo (splitColumns body 2)
  let limit := some (max 0 (right.height - 3))
  write (appNumbers (upTo limit (sortedApps model.apps)))
  pure [.paint banner (.text (onboardingBanner model.node)),
    .paint left (.panel (management model.network)), .paint right (.panel (apps model.apps limit))]

/-- Paints the page with the ports. -/
def NetworkPage.renderStrictly (page : NetworkPage) (area : Rect) (model : Model) (focused : Bool) :
    Except RenderFault (NetworkPage × List Stroke) := do
  let page := page.seeing model
  let listHeight := min area.height ((page.names.length : Int) + 4)
  let (top, bottom) ← inTwo (stackRows area [listHeight, max 0 (area.height - listHeight)])
  write (portNumbers model.network)
  let name ← page.selectedNameStrictly.mapError .missing
  let port := name.bind fun name => if name = "" then none else model.port? name
  write (portNumbers port.toList)
  let selected := if focused then some (page.selected : Int) else none
  pure (page, paintPanels [interfaces model.network selected, interfaceDetail port] [top, bottom])

/-- Paints a page. -/
def Page.renderStrictly (page : Page) (area : Rect) (model : Model) (focused : Bool) :
    Except RenderFault (Page × List Stroke) :=
  match page with
  | summary => (renderSummaryStrictly area model).map fun strokes => (page, strokes)
  | home => (renderHomeStrictly area model).map fun strokes => (page, strokes)
  | network list =>
    (list.renderStrictly area model focused).map fun (list, strokes) => (network list, strokes)
  | applications => do
    write (appNumbers (sortedApps model.apps))
    pure (page, [.paint area (.panel (apps model.apps none))])
  | kernelLog log => do
    write (kernelLogNumbers model.kernelLog area.height (log.seeing model).scroll)
    let (log, strokes) := log.render area model
    pure (kernelLog log, strokes)

/-- Paints a window. -/
def Layer.renderStrictly (layer : Layer) (area : Rect) (model : Model) (focused : Bool) :
    Except RenderFault (Layer × List Stroke) :=
  match layer with
  | page found =>
    (found.renderStrictly area model focused).map fun (found, strokes) => (page found, strokes)
  | dialog found =>
    (found.renderStrictly area model focused).map fun strokes => (layer, strokes)

/-- Paints windows from the bottom up. -/
def renderLayersStrictly (area : Rect) (model : Model) (onTop : Bool) :
    List Layer → Except RenderFault (List Layer × List Stroke)
  | [] => .ok ([], [])
  | layer :: below => do
    let (below, strokes) ← renderLayersStrictly area model false below
    let (layer, more) ← layer.renderStrictly area model onTop
    pure (layer :: below, strokes ++ more)

/-- Paints the tab bar, the windows of the selected tab, and the status bar. -/
def Ui.renderStrictly (ui : Ui Layer) (area : Rect) (model : Model) :
    Except RenderFault (Ui Layer × List Stroke) := do
  let screen := Layout.Screen.of area
  let bar := Stroke.paint screen.tabs (.panel (tabs (Tab.all.map Tab.title) ui.tab.index))
  let (layers, strokes) ← renderLayersStrictly screen.body model true ui.active.layers
  pure (ui.setActive ⟨layers⟩,
    bar :: strokes ++ [.paint screen.status (.panel ui.statusBar.panel)])

variable {model : Model}

/-! ## Pages -/

theorem appNumbers_isWritable (writable : model.IsWritable) {shown : List Device.App}
    (subset : shown ⊆ sortedApps model.apps) :
    ∀ number ∈ appNumbers shown, Text.IsWritable number := by
  intro number member
  obtain ⟨app, appMember, member⟩ := List.mem_flatMap.mp member
  have known : app ∈ model.apps.values := List.mem_mergeSort.mp (subset appMember)
  exact (writable.apps app known).numbers number member

theorem portNumbers_isWritable (writable : model.IsWritable) {ports : List Port}
    (subset : ports ⊆ model.network) : ∀ number ∈ portNumbers ports, Text.IsWritable number := by
  intro number member
  obtain ⟨port, portMember, rfl⟩ := List.mem_map.mp member
  exact (writable.network port (subset portMember)).number

/-- The registers of the vault can be written. -/
theorem vaultNumbers_isWritable (writable : model.IsWritable) :
    ∀ number ∈ vaultNumbers model.vault, Text.IsWritable number := by
  intro number member
  have kept := writable.vault
  generalize model.vault = vault at kept member
  unfold vaultNumbers at member
  split at member
  · next reason registers =>
    obtain ⟨register, registerMember, same⟩ := List.mem_filterMap.mp member
    cases register with
    | index found =>
      cases same
      exact kept reason registers rfl number registerMember
    | flag value => cases same
  · cases member

theorem summaryNumbers_isWritable (writable : model.IsWritable) :
    ∀ number ∈ summaryNumbers model.node.summary, Text.IsWritable number := by
  have counts := writable.summary
  simp only [summaryNumbers, List.forall_mem_cons]
  exact ⟨counts.running, counts.starting, counts.stopping, counts.error, List.forall_mem_nil _⟩

/-- The state and the progress of the download can be written. -/
theorem downloadNumbers_isWritable (writable : model.IsWritable) :
    ∀ number ∈ downloadNumbers model.downloader, Text.IsWritable number := by
  have known := writable.downloader
  cases reported : model.downloader with
  | none => exact List.forall_mem_nil _
  | some status =>
    have download := known status reported
    intro number member
    obtain state | progress := List.mem_append.mp member
    · exact download.state.numbers number state
    · rw [List.mem_singleton.mp progress]
      exact download.progress

/-- The seconds of kernel records can be written, and how far their log is scrolled back: there are
not more records than there is room for. -/
theorem kernelLogNumbers_isWritable (writable : model.IsWritable) (height : Int)
    (log : KernelLogPage) :
    ∀ number ∈ kernelLogNumbers model.kernelLog height (log.seeing model).scroll,
      Text.IsWritable number := by
  refine List.forall_mem_cons.mpr ⟨?_, ?_⟩
  · have bound : (log.seeing model).scroll ≤ kernelLogCapacity :=
      Nat.le_trans (Nat.min_le_right _ _) (Nat.le_trans (Nat.sub_le _ _) writable.capacity)
    have short : ((log.seeing model).scroll : Int).natAbs < 10 ^ 4 :=
      Nat.lt_of_le_of_lt bound (by decide)
    exact Text.isWritable_of_lt (by decide) short
  · intro number member
    obtain ⟨record, shown, rfl⟩ := List.mem_map.mp member
    have known : record ∈ model.kernelLog := by
      unfold visibleRecords at shown
      split at shown
      · cases shown
      · exact List.mem_of_mem_take (List.mem_of_mem_drop shown)
    have time : record.micros.natAbs < _ := writable.kernelLog record known
    have smaller : record.micros.toNat / 1000000 ≤ record.micros.natAbs := by omega
    exact Nat.lt_of_le_of_lt smaller time

theorem inTwo_stackRows (area : Rect) (first second : Int) :
    ∃ top bottom, stackRows area [first, second] = [top, bottom] :=
  ⟨_, _, rfl⟩

theorem inTwo_splitColumns (area : Rect) : ∃ left right, splitColumns area 2 = [left, right] :=
  ⟨_, _, rfl⟩

/-- Nothing but a size keeps the summary from being painted. -/
theorem Page.renderSummaryStrictly_eq (writable : model.IsWritable) (area : Rect) :
    renderSummaryStrictly area model = (renderSummary area model).mapError .ofSize := by
  obtain ⟨top, bottom, rows⟩ :=
    inTwo_stackRows area (area.height / 2) (area.height - area.height / 2)
  unfold renderSummaryStrictly renderSummary
  rw [write_eq (vaultNumbers_isWritable writable), write_eq (summaryNumbers_isWritable writable),
    write_eq (downloadNumbers_isWritable writable), rows]
  cases downloader model.downloader with
  | error fault => rfl
  | ok downloads =>
    simp only [bind, Except.bind, Except.mapError, inTwo, List.flatMap_cons, List.flatMap_nil,
      List.append_nil]
    split <;> rfl

/-- The page with the banner is painted. -/
theorem Page.renderHomeStrictly_eq (writable : model.IsWritable) (area : Rect) :
    renderHomeStrictly area model = .ok (renderHome area model) := by
  obtain ⟨banner, body, rows⟩ := inTwo_stackRows area 1 (max 0 (area.height - 1))
  obtain ⟨left, right, columns⟩ := inTwo_splitColumns body
  have shown : upTo (some (max 0 (right.height - 3))) (sortedApps model.apps) ⊆
      sortedApps model.apps := by
    unfold upTo
    split
    · exact List.Subset.refl _
    · exact List.take_subset _ _
    · exact List.take_subset _ _
  unfold renderHomeStrictly renderHome
  simp only [rows, columns, inTwo, bind, Except.bind,
    write_eq (appNumbers_isWritable writable shown)]
  rfl

/-- The page with the ports is painted. -/
theorem NetworkPage.renderStrictly_eq (writable : model.IsWritable) (page : NetworkPage)
    (area : Rect) (focused : Bool) :
    page.renderStrictly area model focused = .ok (page.render area model focused) := by
  have detailed : ((page.seeing model).selectedName?.bind fun name =>
      if name = "" then none else model.port? name) = (page.seeing model).detailed? model := by
    unfold detailed?
    cases (page.seeing model).selectedName? <;> rfl
  have known : ((page.seeing model).detailed? model).toList ⊆ model.network := by
    intro port member
    rw [← detailed, Option.mem_toList] at member
    obtain ⟨name, -, found⟩ := Option.bind_eq_some_iff.mp member
    split at found
    · cases found
    · exact List.mem_of_find?_eq_some found
  obtain ⟨top, bottom, rows⟩ := inTwo_stackRows area
    (min area.height (((page.seeing model).names.length : Int) + 4))
    (max 0 (area.height - min area.height (((page.seeing model).names.length : Int) + 4)))
  unfold NetworkPage.renderStrictly NetworkPage.render
  dsimp only
  rw [rows, write_eq (portNumbers_isWritable writable (List.Subset.refl _)),
    NetworkPage.selectedNameStrictly_eq]
  simp only [inTwo, bind, Except.bind, Except.mapError, detailed,
    write_eq (portNumbers_isWritable writable known)]
  rfl

/-- Nothing but a size keeps a page from being painted. -/
theorem Page.renderStrictly_eq (writable : model.IsWritable) (page : Page) (area : Rect)
    (focused : Bool) :
    page.renderStrictly area model focused =
      (page.render area model focused).mapError .ofSize := by
  cases page with
  | summary =>
    unfold Page.renderStrictly Page.render
    dsimp only
    rw [renderSummaryStrictly_eq writable]
    cases renderSummary area model <;> rfl
  | home =>
    unfold Page.renderStrictly Page.render
    dsimp only
    rw [renderHomeStrictly_eq writable]
    rfl
  | network page =>
    unfold Page.renderStrictly Page.render
    dsimp only
    rw [page.renderStrictly_eq writable]
    rfl
  | applications =>
    unfold Page.renderStrictly Page.render
    dsimp only
    rw [write_eq (appNumbers_isWritable writable (List.Subset.refl _))]
    rfl
  | kernelLog log =>
    unfold Page.renderStrictly Page.render
    dsimp only
    rw [write_eq (kernelLogNumbers_isWritable writable area.height log)]
    rfl

/-! ## Windows -/

/-- Nothing but a size keeps the windows of a tab that are in order from being painted. -/
theorem Holds.renderStrictly_eq {tab : Tab} {layers : List Layer} (holds : Holds tab layers)
    (writable : model.IsWritable) {layer : Layer} (member : layer ∈ layers) (area : Rect)
    (focused : Bool) :
    layer.renderStrictly area model focused =
      (layer.render area model focused).mapError .ofSize := by
  have page (page : Page) : (Layer.page page).renderStrictly area model focused =
      ((Layer.page page).render area model focused).mapError .ofSize := by
    unfold Layer.renderStrictly Layer.render
    dsimp only
    rw [page.renderStrictly_eq writable]
    cases page.render area model focused <;> rfl
  cases holds with
  | page found =>
    obtain rfl := List.mem_singleton.mp member
    exact page found
  | dialog found port keys =>
    obtain rfl | below := List.mem_cons.mp member
    · unfold Layer.renderStrictly
      dsimp only
      rw [Dialog.afterKeys_renderStrictly]
      rfl
    · obtain rfl := List.mem_singleton.mp below
      exact page (.network found)

/-- Nothing but a size keeps windows from being painted, if that holds of each of them. -/
theorem renderLayersStrictly_eq {layers : List Layer} {area : Rect}
    (each : ∀ layer ∈ layers, ∀ focused, layer.renderStrictly area model focused =
      (layer.render area model focused).mapError .ofSize) (onTop : Bool) :
    renderLayersStrictly area model onTop layers =
      (LayerStack.renderLayers area model onTop layers).mapError .ofSize := by
  induction layers generalizing onTop with
  | nil => rfl
  | cons layer below inductionHypothesis =>
    rw [List.forall_mem_cons] at each
    rw [renderLayersStrictly, renderLayers_cons, inductionHypothesis each.2]
    cases LayerStack.renderLayers area model false below with
    | error fault => rfl
    | ok painted =>
      simp only [bind, Except.bind, Except.mapError, each.1]
      cases layer.render area model onTop <;> rfl

/-- Nothing but a size keeps an interface that is in order from being painted. -/
theorem Ui.IsStacked.renderStrictly_eq {ui : Ui Layer} (stacked : ui.IsStacked)
    (writable : model.IsWritable) (area : Rect) :
    ui.renderStrictly area model = (ui.render area model).mapError .ofSize := by
  have layers := renderLayersStrictly_eq
    (fun layer member => (stacked ui.tab).renderStrictly_eq writable member
      (Layout.Screen.of area).body) true
  have painted : renderLayersStrictly (Layout.Screen.of area).body model true ui.active.layers =
      (LayerStack.renderLayers (Layout.Screen.of area).body model true
        ui.active.layers).mapError .ofSize := layers
  unfold Ui.renderStrictly Ui.render LayerStack.render
  dsimp only
  rw [painted]
  cases LayerStack.renderLayers (Layout.Screen.of area).body model true ui.active.layers <;> rfl

/-! ## Sizes -/

/-- The downloader reports a size that is out of range of a 64-bit number. -/
def HasHugeDownload (model : Model) : Prop :=
  ∃ status, model.downloader = some status ∧
    ((Binary64.overflow : Int) ≤ status.currentSize ∨ (Binary64.overflow : Int) ≤ status.totalSize)

/-- The panel of the downloader fails when one of the two sizes cannot be shown. -/
theorem downloader_eq_error (status : DownloadStatus) :
    downloader (some status) = .error ⟨⟩ ↔
      humanBytes status.currentSize = .error ⟨⟩ ∨ humanBytes status.totalSize = .error ⟨⟩ := by
  unfold downloader
  dsimp only
  cases humanBytes status.currentSize with
  | error fault => exact iff_of_true rfl (.inl rfl)
  | ok current =>
    cases humanBytes status.totalSize with
    | error fault => exact iff_of_true rfl (.inr rfl)
    | ok total => exact iff_of_false nofun (by rintro (failed | failed) <;> cases failed)

/-- The panel of the downloader fails for such a size alone. -/
theorem downloader_fails_iff (model : Model) :
    downloader model.downloader = .error ⟨⟩ ↔ HasHugeDownload model := by
  unfold HasHugeDownload
  cases model.downloader with
  | none => exact ⟨nofun, fun ⟨_, reported, _⟩ => nomatch reported⟩
  | some status =>
    rw [downloader_eq_error, humanBytes_fails_iff, humanBytes_fails_iff]
    simp only [Option.some.injEq, exists_eq_left']

/-- Only the page of the summary fails to be painted, and only for such a size. -/
theorem Page.render_fails_iff (page : Page) (area : Rect) (focused : Bool) :
    page.render area model focused = .error ⟨⟩ ↔ page.tab = .summary ∧ HasHugeDownload model := by
  cases page with
  | summary =>
    have panel : renderSummary area model = .error ⟨⟩ ↔
        downloader model.downloader = .error ⟨⟩ := by
      unfold renderSummary
      cases downloader model.downloader with
      | error fault => exact iff_of_true rfl rfl
      | ok downloads =>
        refine iff_of_false ?_ nofun
        simp only [bind, Except.bind]
        split <;> nofun
    unfold Page.render
    rw [map_eq_error, panel, downloader_fails_iff]
    exact (and_iff_right rfl).symm
  | home => exact iff_of_false nofun fun ⟨other, _⟩ => nomatch other
  | network list => exact iff_of_false nofun fun ⟨other, _⟩ => nomatch other
  | applications => exact iff_of_false nofun fun ⟨other, _⟩ => nomatch other
  | kernelLog log => exact iff_of_false nofun fun ⟨other, _⟩ => nomatch other

theorem renderLayers_singleton (layer : Layer) (area : Rect) :
    LayerStack.renderLayers area model true [layer] = .error ⟨⟩ ↔
      layer.render area model true = .error ⟨⟩ := by
  rw [renderLayers_cons]
  exact map_eq_error

/-- Windows of a tab that are in order fail to be painted when the summary is shown with such a
size. -/
theorem Holds.render_fails_iff {tab : Tab} {layers : List Layer} (holds : Holds tab layers)
    (area : Rect) :
    LayerStack.renderLayers area model true layers = .error ⟨⟩ ↔
      tab = .summary ∧ HasHugeDownload model := by
  cases holds with
  | page page =>
    rw [renderLayers_singleton, ← page.render_fails_iff area true]
    exact map_eq_error
  | dialog page port keys =>
    exact iff_of_false nofun fun ⟨other, _⟩ => nomatch other

/-- An interface that is in order fails to be painted when the summary is selected and such a size
is reported. -/
theorem Ui.IsStacked.render_fails_iff {ui : Ui Layer} (stacked : ui.IsStacked) (area : Rect) :
    ui.render area model = .error ⟨⟩ ↔ ui.tab = .summary ∧ HasHugeDownload model := by
  rw [← (stacked ui.tab).render_fails_iff (Layout.Screen.of area).body]
  unfold Ui.render LayerStack.render
  change (Except.map _ (LayerStack.renderLayers (Layout.Screen.of area).body model true
    (ui.layers.get ui.tab).layers) >>= _) = _ ↔ _
  cases LayerStack.renderLayers (Layout.Screen.of area).body model true
    (ui.layers.get ui.tab).layers with
  | error fault => exact iff_of_true rfl rfl
  | ok painted => exact iff_of_false nofun nofun

end Screen

/-- What a stroke does to a frame, when what it paints takes some lines. -/
def Paint.Stroke.operation (lines : Renderable → Rect → List Line) : Stroke → Frame.Operation
  | .paint area what => .render (lines what area) area
  | .clear area => .clear area

namespace App

/-- A message of the downloader that reports a size in digits. -/
def sizeReport (digits : List Char) : List Char :=
  "\x7b\"TotalSize\":".toList ++ digits ++ "\x7d".toList

/-- What is read of a message of the downloader. -/
def downloadOf? (text : List Char) : Option DownloadStatus :=
  match Json.parse Json.nestingLimit text with
  | .ok payload => (downloadStatus payload).outcome.toOption
  | .error _ => none

/-- What is read of a message of the downloader can be told to a model. -/
theorem isTold_of_downloadOf {text : List Char} {status : DownloadStatus}
    (read : downloadOf? text = some status) :
    (({} : Model).apply (.downloader status)).IsTold := by
  unfold downloadOf? at read
  split at read
  · next payload parsed =>
    refine ⟨[.downloader status], List.forall_mem_singleton.mpr ?_, rfl⟩
    refine .status .downloader ⟨_, _, parsed⟩ ?_
    cases outcome : (downloadStatus payload).outcome with
    | error failure =>
      rw [outcome] at read
      cases read
    | ok found =>
      rw [outcome] at read
      cases read
      exact Reading.outcome_bind_of_ok outcome _
  · cases read

/-- However the program has been run, whatever tab is selected, and whatever a model has been told:
painting fails when the summary is selected and the downloader reports a size that is out of range
of a 64-bit number, and in no other case. What is painted is what painting asks for, and all cells
and rows that it reaches for are there, whatever lines the terminal makes of it. -/
theorem rendering_fails_iff {profile : Profile} {base : Files.Path} {first : App Layer}
    (started : App.start profile base = .ok first) (occurrences : List Occurrence) (tab : Tab)
    {model : Model} (told : model.IsTold) (width height : Int) :
    let ui : Ui Layer := { (first.afterAll occurrences).ui with tab := tab }
    let area : Rect := ⟨0, 0, max 0 width, max 0 height⟩
    ((∃ fault, ui.renderStrictly area model = .error fault) ↔
      tab = .summary ∧ HasHugeDownload model) ∧
    (∀ fault, ui.renderStrictly area model = .error fault → fault = .size) ∧
    ∀ next strokes, ui.renderStrictly area model = .ok (next, strokes) →
      ui.render area model = .ok (next, strokes) ∧
        ∀ lines, ∃ frame, (Frame.ofSize width height).performAll?
          (strokes.map (Stroke.operation lines)) = some frame := by
  intro ui area
  have orderly := ((isOrderly_start started).afterAll occurrences).1
  have stacked : ui.IsStacked := orderly.stacked.of_layers rfl
  have strictly := stacked.renderStrictly_eq told.isWritable area
  have fails : ui.render area model = .error ⟨⟩ ↔ tab = .summary ∧ HasHugeDownload model :=
    stacked.render_fails_iff area
  rw [strictly, ← fails]
  cases ui.render area model with
  | error fault =>
    refine ⟨iff_of_true ⟨_, rfl⟩ rfl, ?_, nofun⟩
    rintro _ ⟨⟩
    rfl
  | ok painted =>
    refine ⟨iff_of_false nofun nofun, nofun, ?_⟩
    rintro next strokes ⟨⟩
    refine ⟨rfl, fun lines => ?_⟩
    exact ⟨_, ((Frame.ofSize_isIntact width height).performAll _).reached⟩

/-- With a dialog over the page with the ports and a small download, every tab is painted. -/
theorem rendering_fails_iff_dialog :
    let first : App Layer := { onePort with ui := .withPages false .network, model := {} }
    let occurrences := [.entered, .collected onePort.model onePort.collectors, .drawn 80 24,
      .key ⟨0⟩ (.plain "enter")]
    let ui := (first.afterAll occurrences).ui
    let model := ({} : Model).apply (.downloader ⟨"", "", .other 0, 0, 1536, 0, none, none, {}⟩)
    App.start { Profile.release with startTab := "network" } ⟨"/", ["run"]⟩ = .ok first ∧
      model.IsTold ∧ (ui.layers.get .network).size = 2 ∧
        ∀ tab, ∃ painted,
          ({ ui with tab := tab } : Ui Layer).renderStrictly ⟨0, 0, 80, 24⟩ model =
            .ok painted := by
  intro first occurrences ui model
  have started : App.start { Profile.release with startTab := "network" } ⟨"/", ["run"]⟩ =
      .ok first := by rfl
  have read : downloadOf? (sizeReport "1536".toList) =
      some ⟨"", "", .other 0, 0, 1536, 0, none, none, {}⟩ := by
    decide +kernel
  have told : model.IsTold := isTold_of_downloadOf read
  refine ⟨started, told, rfl, fun tab => ?_⟩
  have fails := (rendering_fails_iff started occurrences tab told 80 24).1
  have small : ¬((Binary64.overflow : Int) ≤ 0 ∨ (Binary64.overflow : Int) ≤ 1536) := by
    decide +kernel
  cases outcome : ({ ui with tab := tab } : Ui Layer).renderStrictly ⟨0, 0, 80, 24⟩ model with
  | ok painted => exact ⟨painted, rfl⟩
  | error fault =>
    obtain ⟨-, status, ⟨⟩, huge⟩ := fails.mp ⟨fault, outcome⟩
    exact absurd huge small

/-- A size of three hundred and ten digits is read, and the summary cannot be painted. -/
theorem render_hugeSize :
    let first : App Layer := { onePort with ui := .withPages false .summary, model := {} }
    let status : DownloadStatus := ⟨"", "", .other 0, 0, 10 ^ 309, 0, none, none, {}⟩
    App.start Profile.release ⟨"/", ["run"]⟩ = .ok first ∧
      downloadOf? (sizeReport ('1' :: List.replicate 309 '0')) = some status ∧
        (({} : Model).apply (.downloader status)).IsTold ∧
          first.ui.render ⟨0, 0, 80, 24⟩ (({} : Model).apply (.downloader status)) =
            .error ⟨⟩ := by
  intro first status
  have read : downloadOf? (sizeReport ('1' :: List.replicate 309 '0')) = some status := by
    decide +kernel
  have huge : (Binary64.overflow : Int) ≤ status.totalSize := by decide +kernel
  refine ⟨by rfl, read, isTold_of_downloadOf read, ?_⟩
  exact ((Ui.isStacked_withPages false .summary).render_fails_iff _).mpr
    ⟨rfl, status, rfl, .inr huge⟩

end App

end NodeConsole
