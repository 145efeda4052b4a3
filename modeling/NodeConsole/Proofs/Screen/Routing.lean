import NodeConsole.Screen.Ui

/-!
# Where keys go

A key goes to the top window of the selected tab, once, and to no other window: `handleKey_routes`.
The window may ask to be closed, and is then taken away from its own tab unless it stands alone
there; only after that does a key for another tab select it. The keys for debugging are handled
before any window sees them.
-/

namespace NodeConsole.Screen

open NodeConsole.Input

variable {W : Type}

/-- The window asks to be closed: a dialog is dismissed, or one of the buttons that close a window
has been pressed. -/
def AsksToClose : Option Action → Prop
  | some (.dismissDialog _) => True
  | some (.buttonClicked name) => name = "Ok" ∨ name = "Cancel"
  | _ => False

/-- The windows of a tab, the top one first, before and after a key that the top one takes, and the
window that is taken away. The windows below it do not change, and the lowest one stays. -/
inductive Takes [Window W] (key : Key) : List W → List W → Option W → Prop
  | stays {top : W} {below : List W}
      (alone : AsksToClose (Window.handleKey top key).2 → below = []) :
      Takes key (top :: below) ((Window.handleKey top key).1 :: below) none
  | leaves {top : W} {below : List W} (asked : AsksToClose (Window.handleKey top key).2)
      (several : below ≠ []) :
      Takes key (top :: below) below (some (Window.handleKey top key).1)

/-- The place of the tab that is selected after a key: Ctrl+Left leads one place to the left and
Ctrl+Right one to the right, as far as there are tabs. -/
def placeAfter (key : Key) (place : Nat) : Nat :=
  if key.isCtrl "left" then place - 1
  else if key.isCtrl "right" then min (place + 1) (Tab.all.length - 1)
  else place

/-- The keys for debugging, all of them with Control. -/
def debugCodes : List String := ["e", "r", "p", "a"]

/-- The interface takes a key for debugging itself. -/
def IsShortcut (ui : Ui W) (key : Key) : Prop :=
  ui.debug = true ∧ ∃ code ∈ debugCodes, key.isCtrl code = true

/-- A key has been routed: the top window of the tab that was selected has taken it, no other tab
has changed, and the tab is selected that the key leads to. -/
structure IsRouted [Window W] (ui : Ui W) (key : Key) (handled : Handled W) : Prop where
  taken : Takes key (ui.layers.get ui.tab).layers (handled.ui.layers.get ui.tab).layers
    handled.removed
  others : ∀ tab, tab ≠ ui.tab → handled.ui.layers.get tab = ui.layers.get tab
  tab : handled.ui.tab.index = placeAfter key ui.tab.index

/-- A key has been handled without a window: every window is as it was, except that Ctrl+P takes
away the top one of the selected tab, unless it stands alone there. -/
structure IsUnseen (ui : Ui W) (key : Key) (handled : Handled W) : Prop where
  windows : handled.ui.layers.get ui.tab = ui.layers.get ui.tab ∧ handled.removed = none ∨
    key.isCtrl "p" = true ∧ ∃ top below, below ≠ [] ∧ handled.removed = some top ∧
      (ui.layers.get ui.tab).layers = top :: below ∧
      (handled.ui.layers.get ui.tab).layers = below
  others : ∀ tab, tab ≠ ui.tab → handled.ui.layers.get tab = ui.layers.get tab
  tab : handled.ui.tab = ui.tab

namespace Ui

variable {ui : Ui W}

/-! ## Stacks and tabs -/

theorem get_setActive (ui : Ui W) (stack : LayerStack W) (tab : Tab) :
    (ui.setActive stack).layers.get tab = if tab = ui.tab then stack else ui.layers.get tab :=
  ui.layers.get_set ui.tab tab stack

theorem active_setActive (ui : Ui W) (stack : LayerStack W) :
    (ui.setActive stack).active = stack :=
  (ui.get_setActive stack ui.tab).trans (if_pos rfl)

theorem setActive_setActive (ui : Ui W) (first second : LayerStack W) :
    (ui.setActive first).setActive second = ui.setActive second := by
  have same : (ui.layers.set ui.tab first).set ui.tab second = ui.layers.set ui.tab second := by
    cases ui.tab <;> rfl
  simp only [setActive, same]

theorem layers_selectTab (ui : Ui W) (tab : Tab) : (ui.selectTab tab).1.layers = ui.layers := by
  unfold selectTab
  split <;> rfl

theorem tab_selectTab (ui : Ui W) (tab : Tab) : (ui.selectTab tab).1.tab = tab := by
  unfold selectTab
  split
  · next same => exact same.symm
  · rfl

/-- The tab that a key leads to is one place away, or at the same place at an end of the row. -/
theorem index_tabAfter (tab : Tab) (key : Key) :
    (tabAfter tab key).index = placeAfter key tab.index := by
  unfold tabAfter placeAfter
  split
  · cases tab <;> rfl
  · split
    · cases tab <;> rfl
    · rfl

/-! ## Closing windows -/

theorem popLayer_of_alone {top : W} (alone : ui.active.layers = [top]) :
    ui.popLayer = (ui, none) := by
  simp [popLayer, LayerStack.size, alone]

/-- A window above another one is taken away. -/
theorem popLayer_of_several {top : W} {below : List W} (several : below ≠ [])
    (stacked : ui.active.layers = top :: below) :
    ui.popLayer = (ui.setActive ⟨below⟩, some top) := by
  have high : ¬ui.active.size ≤ 1 := by
    have low := List.length_pos_iff.mpr several
    simp only [LayerStack.size, stacked, List.length_cons]
    omega
  simp [popLayer, high, LayerStack.pop, stacked]

/-- An answer that asks to close the window closes it. -/
theorem interpret_of_asks {answer : Option Action} (asks : AsksToClose answer) :
    ui.interpret answer = ui.closeTop := by
  match answer, asks with
  | some (.dismissDialog _), _ => rfl
  | some (.buttonClicked name), closes =>
    have popping : poppingButtons.contains name = true := by
      simpa [poppingButtons, AsksToClose] using closes
    rw [interpret, if_pos popping]

/-- Any other answer leaves the windows and the tab. -/
theorem interpret_of_not_asks (ui : Ui W) {answer : Option Action} (stays : ¬AsksToClose answer) :
    (ui.interpret answer).ui = ui ∧ (ui.interpret answer).removed = none := by
  unfold interpret
  split
  · exact ⟨rfl, rfl⟩
  · exact absurd trivial stays
  · next name =>
    have other : poppingButtons.contains name = false := by
      simpa [poppingButtons, AsksToClose] using stays
    rw [if_neg (by simp only [other, Bool.false_eq_true, not_false_eq_true])]
    exact ⟨rfl, rfl⟩
  · exact ⟨rfl, rfl⟩

/-! ## Keys -/

variable [Window W] {key : Key} {handled : Handled W}

/-- What the top window answers is done in its own tab: the window is taken away, or all of them
stay. -/
theorem interpret_takes (key : Key) {top : W} {below : List W}
    (stacked : ui.active.layers = top :: below) :
    let placed := ui.setActive ⟨(Window.handleKey top key).1 :: below⟩
    let done := placed.interpret (Window.handleKey top key).2
    Takes key (top :: below) (done.ui.layers.get ui.tab).layers done.removed ∧
      (∀ tab, tab ≠ ui.tab → done.ui.layers.get tab = ui.layers.get tab) ∧
      done.ui.tab = ui.tab := by
  intro placed done
  have here : placed.active.layers = (Window.handleKey top key).1 :: below := by
    rw [ui.active_setActive]
  have elsewhere (tab : Tab) (other : tab ≠ ui.tab) :
      placed.layers.get tab = ui.layers.get tab := by
    rw [ui.get_setActive, if_neg other]
  have staying (same : done.ui = placed) (kept : done.removed = none)
      (alone : AsksToClose (Window.handleKey top key).2 → below = []) :
      Takes key (top :: below) (done.ui.layers.get ui.tab).layers done.removed ∧
        (∀ tab, tab ≠ ui.tab → done.ui.layers.get tab = ui.layers.get tab) ∧
        done.ui.tab = ui.tab := by
    rw [same, kept]
    refine ⟨?_, elsewhere, rfl⟩
    rw [ui.get_setActive, if_pos rfl]
    exact .stays alone
  by_cases asks : AsksToClose (Window.handleKey top key).2
  · have closed : done = placed.closeTop := interpret_of_asks asks
    by_cases several : below = []
    · subst several
      have unmoved : placed.popLayer = (placed, none) := popLayer_of_alone here
      refine staying ?_ ?_ fun _ => rfl
      · rw [closed, closeTop, unmoved]
      · rw [closed, closeTop, unmoved]
    · have popped := popLayer_of_several several here
      rw [closed, closeTop, popped]
      refine ⟨?_, fun tab other => ?_, rfl⟩
      · rw [placed.get_setActive, if_pos (show ui.tab = placed.tab from rfl)]
        exact .leaves asks several
      · rw [placed.get_setActive, if_neg (show tab ≠ placed.tab from other)]
        exact elsewhere tab other
  · obtain ⟨same, kept⟩ := placed.interpret_of_not_asks asks
    exact staying same kept fun asked => absurd asked asks

/-- A key that no shortcut takes goes to the top window of the selected tab. -/
theorem routeKey_isRouted (filled : ui.active.layers ≠ []) (key : Key) :
    IsRouted ui key (ui.routeKey key) := by
  obtain ⟨top, below, stacked⟩ := List.exists_cons_of_ne_nil filled
  have given : ui.active.handleKey key =
      (⟨(Window.handleKey top key).1 :: below⟩, (Window.handleKey top key).2) := by
    simp only [LayerStack.handleKey, stacked]
  obtain ⟨taken, others, tab⟩ := interpret_takes key stacked
  unfold routeKey
  simp only [given]
  constructor
  · rw [layers_selectTab]
    exact stacked ▸ taken
  · intro other different
    rw [layers_selectTab]
    exact others other different
  · rw [tab_selectTab, index_tabAfter, tab]

omit [Window W] in
/-- Only the keys for debugging are taken before the windows. -/
theorem debugKey?_eq_none :
    ui.debugKey? key = none ↔ ¬∃ code ∈ debugCodes, key.isCtrl code = true := by
  unfold debugKey?
  constructor
  · intro untaken
    split at untaken
    · contradiction
    · split at untaken
      · contradiction
      · split at untaken
        · contradiction
        · split at untaken
          · contradiction
          · next e r p a =>
            rintro ⟨code, member, pressed⟩
            simp only [debugCodes, List.mem_cons, List.not_mem_nil, or_false] at member
            obtain rfl | rfl | rfl | rfl := member
            · exact e pressed
            · exact r pressed
            · exact p pressed
            · exact a pressed
  · intro plain
    have unpressed (code : String) (member : code ∈ debugCodes) : ¬key.isCtrl code = true :=
      fun pressed => plain ⟨code, member, pressed⟩
    rw [if_neg (unpressed "e" (by decide)), if_neg (unpressed "r" (by decide)),
      if_neg (unpressed "p" (by decide)), if_neg (unpressed "a" (by decide))]

omit [Window W] in
/-- A key for debugging that can be handled is handled without a window. -/
theorem debugKey?_isUnseen (filled : ui.active.layers ≠ [])
    (handles : ui.debugKey? key = some (.ok handled)) : IsUnseen ui key handled := by
  unfold debugKey? at handles
  split at handles
  · cases handles
    exact ⟨.inl ⟨rfl, rfl⟩, fun _ _ => rfl, rfl⟩
  · split at handles
    · cases handles
      exact ⟨.inl ⟨rfl, rfl⟩, fun _ _ => rfl, rfl⟩
    · split at handles
      · next pressed =>
        cases handles
        obtain ⟨top, below, stacked⟩ := List.exists_cons_of_ne_nil filled
        by_cases several : below = []
        · subst several
          have unmoved := popLayer_of_alone stacked
          rw [closeTop, unmoved]
          exact ⟨.inl ⟨rfl, rfl⟩, fun _ _ => rfl, rfl⟩
        · have popped := popLayer_of_several several stacked
          rw [closeTop, popped]
          refine ⟨.inr ⟨pressed, top, below, several, rfl, stacked, ?_⟩, fun tab other => ?_, rfl⟩
          · rw [get_setActive, if_pos rfl]
          · rw [get_setActive, if_neg other]
      · split at handles
        · cases handles
        · contradiction

/-- What a key that can be handled does: it is routed or, with debugging, asks to quit or to draw
again or closes the top window. -/
theorem handled_of_handleKey (handles : ui.handleKey key = .ok handled) :
    handled = ui.routeKey key ∨ ui.debug = true ∧
      (key.isCtrl "e" = true ∧ handled = { ui := ui, sent := [.quit] } ∨
        key.isCtrl "r" = true ∧ handled = { ui := ui, sent := [.redraw] } ∨
          key.isCtrl "p" = true ∧ handled = ui.closeTop) := by
  unfold handleKey at handles
  split at handles
  · next debug =>
    unfold debugKey? at handles
    split at handles
    · next pressed => exact .inr ⟨debug, .inl ⟨pressed, (Except.ok.inj handles).symm⟩⟩
    · split at handles
      · next pressed => exact .inr ⟨debug, .inr (.inl ⟨pressed, (Except.ok.inj handles).symm⟩)⟩
      · split at handles
        · next pressed => exact .inr ⟨debug, .inr (.inr ⟨pressed, (Except.ok.inj handles).symm⟩)⟩
        · split at handles
          · contradiction
          · exact .inl (Except.ok.inj handles).symm
  · exact .inl (Except.ok.inj handles).symm

/-- A key that can be handled goes to the top window of the selected tab, and to no other; a key for
debugging goes to none. At most the top window of that tab is taken away, and never the lowest one;
and a key for another tab selects it after that. -/
theorem handleKey_routes (filled : ∀ tab, (ui.layers.get tab).layers ≠ [])
    (handles : ui.handleKey key = .ok handled) :
    (¬IsShortcut ui key → IsRouted ui key handled) ∧
      (IsShortcut ui key → IsUnseen ui key handled) := by
  have routes : IsRouted ui key (ui.routeKey key) := routeKey_isRouted (filled ui.tab) key
  unfold handleKey at handles
  by_cases debug : ui.debug = true
  · rw [if_pos debug] at handles
    cases taken : ui.debugKey? key with
    | none =>
      rw [taken] at handles
      cases handles
      have plain := debugKey?_eq_none.mp taken
      exact ⟨fun _ => routes, fun shortcut => absurd shortcut.2 plain⟩
    | some outcome =>
      rw [taken] at handles
      obtain rfl : outcome = .ok handled := handles
      have pressed : ∃ code ∈ debugCodes, key.isCtrl code = true := by
        refine Classical.byContradiction fun plain => ?_
        rw [debugKey?_eq_none.mpr plain] at taken
        contradiction
      exact ⟨fun other => absurd ⟨debug, pressed⟩ other,
        fun _ => debugKey?_isUnseen (filled ui.tab) taken⟩
  · rw [if_neg debug] at handles
    cases handles
    exact ⟨fun _ => routes, fun shortcut => absurd shortcut.1 debug⟩

/-- A window that gives the same answer to every key, and remembers the keys that it has taken. -/
structure Scripted where
  answer : Option Action
  keys : List Key := []

instance : Window Scripted where
  name _ := "scripted"
  isVisible _ := true
  handleKey window key := ({ window with keys := window.keys ++ [key] }, window.answer)
  tick window := (window, none)
  render window _ _ _ := .ok (window, [])

/-- Ctrl+Left on a dialog that asks to be closed takes it away from its own tab, and then selects
the tab to the left. -/
theorem handleKey_routes_closing :
    let page : Scripted := ⟨none, []⟩
    let dialog : Scripted := ⟨some (.dismissDialog "dialog"), []⟩
    let key : Key := ⟨"left", { control := true }⟩
    let ui : Ui Scripted :=
      { (bare true .network : Ui Scripted) with
        layers := ⟨⟨[page]⟩, ⟨[page]⟩, ⟨[dialog, page]⟩, ⟨[page]⟩, ⟨[page]⟩⟩ }
    ∃ handled, ui.handleKey key = .ok handled ∧ ¬IsShortcut ui key ∧ IsRouted ui key handled ∧
      handled.ui.tab = .home ∧ handled.removed = some { dialog with keys := [key] } := by
  intro page dialog key ui
  have filled (tab : Tab) : (ui.layers.get tab).layers ≠ [] := by
    cases tab <;> exact List.cons_ne_nil _ _
  have other : ¬IsShortcut ui key := by
    rintro ⟨-, code, member, pressed⟩
    have same : key.code = code := by
      simp only [Key.isCtrl, Bool.and_eq_true, decide_eq_true_eq] at pressed
      exact pressed.1
    subst same
    revert member
    decide
  exact ⟨_, rfl, other, (handleKey_routes filled rfl).1 other, rfl, rfl⟩

end Ui

end NodeConsole.Screen
