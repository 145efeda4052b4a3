import NodeConsole.Proofs.Form.Submission
import NodeConsole.Proofs.Net.Readback

/-!
# Submitting what was filled in

The dialog for a port starts with the texts of what the port has. If the port has a static address
in its subnet, and its gateway, if any, lies there too, submitting these texts asks for exactly that
address, that gateway and those DNS servers: `unedited_submits`. The texts are read back as what
they were written from, and the network that is read with the address is the subnet.
-/

namespace NodeConsole.Form

open NodeConsole.Device NodeConsole.Input NodeConsole.Net NodeConsole.Screen NodeConsole.Text
open FocusTracker

/-! ## Values -/

/-- The values of a form are those of its widgets, by name. -/
theorem lookup_values {form : Form} (distinct : (form.widgets.map (·.1)).Nodup) (id : String) :
    form.values.lookup id = (form.widget? id).bind Widget.value? := by
  unfold values widget?
  revert distinct
  induction form.widgets with
  | nil => exact fun _ => rfl
  | cons entry rest inductionHypothesis =>
    intro distinct
    obtain ⟨fresh, distinct⟩ := List.nodup_cons.mp distinct
    have later := inductionHypothesis distinct
    by_cases here : entry.1 = id
    · have absent : rest.find? (fun other => decide (other.1 = id)) = none := by
        refine List.find?_eq_none.mpr fun other member => ?_
        rw [decide_eq_true_iff]
        intro same
        exact fresh (List.mem_map.mpr ⟨other, member, same.trans here.symm⟩)
      cases value : entry.2.value? with
      | none =>
        rw [absent] at later
        simpa [here, value] using later
      | some value => simp [here, value]
    · have differs : (id == entry.1) = false := by simpa using Ne.symm here
      rw [List.find?_cons_of_neg (by simpa using here), ← later]
      cases value : entry.2.value? with
      | none => simp [value]
      | some value => simp [value, List.lookup_cons, differs]

/-- A change that keeps the value of a widget keeps all values. -/
theorem values_modify {form : Form} (distinct : (form.widgets.map (·.1)).Nodup) (id : String)
    {change : Widget → Widget}
    (keeps : ∀ widget, form.widget? id = some widget → (change widget).value? = widget.value?) :
    (form.modify id change).values = form.values := by
  have seen (form : Form) : form.values = (form.widgets.map fun entry =>
      entry.2.value?.map (entry.1, ·)).filterMap fun found => found := by
    rw [List.filterMap_map]
    rfl
  rw [seen, seen, map_modify distinct _ fun widget found =>
    congrArg (Option.map (id, ·)) (keeps widget found)]

/-- Moving the focus keeps all values. -/
theorem values_moveFocus {form : Form} (distinct : (form.widgets.map (·.1)).Nodup)
    (step : FocusTracker → FocusTracker × Option String) :
    (form.moveFocus step).1.values = form.values := by
  unfold moveFocus
  split
  · rfl
  · next last target _ =>
    dsimp only
    split
    · next before _ =>
      have unlit : (form.modify before Widget.putOut).values = form.values :=
        values_modify distinct before fun _ _ => rfl
      rw [← unlit]
      refine values_modify ?_ target fun _ _ => rfl
      rw [names_modify]
      exact distinct
    · exact values_modify distinct target fun _ _ => rfl

/-- Moving the focus to a widget that takes it ends there. -/
theorem focus_moveFocus {form : Form} {step : FocusTracker → FocusTracker × Option String}
    {next : FocusTracker} {id : String} (leads : step form.focus = (next, some id))
    (accepted : form.accepts id = true) : (form.moveFocus step).1.focus = next := by
  obtain ⟨count, views⟩ : ∃ count, max 1 form.focus.ids.length = count + 1 :=
    ⟨max 1 form.focus.ids.length - 1, by omega⟩
  unfold moveFocus
  rw [views]
  unfold seek
  simp only [leads, accepted, if_true]

theorem Widget.value?_setEnabled (widget : Widget) (enabled : Bool) :
    (widget.setEnabled enabled).value? = widget.value? := by
  unfold Widget.setEnabled
  split
  · next input body => simp [value?, body]
  · rfl

namespace IpForm

variable {form : IpForm} {key : Key}

/-- Following the mode keeps all values. -/
theorem values_syncMode (consistent : form.form.IsConsistent) :
    form.syncMode.form.values = form.form.values := by
  have keeps (form : Form) (consistent : form.IsConsistent) (enabled : Bool) (id : String) :
      (form.modify id fun widget => widget.setEnabled enabled).IsConsistent ∧
        (form.modify id fun widget => widget.setEnabled enabled).values = form.values :=
    ⟨consistent.modify id fun widget _ => widget.lit_setEnabled enabled,
      values_modify consistent.distinct id fun widget _ => widget.value?_setEnabled enabled⟩
  obtain ⟨first, firstValues⟩ := keeps form.form consistent form.isStatic "address"
  obtain ⟨second, secondValues⟩ := keeps _ first form.isStatic "gateway"
  exact ((keeps _ second form.isStatic "dns").2.trans secondValues).trans firstValues

/-- Moving the focus keeps all values. -/
theorem IsReady.values_handleKey_of_moves (ready : form.IsReady) (moves : MovesFocus key) :
    (form.handleKey key).1.form.values = form.form.values := by
  have whole := ready.toIsWhole.handleKey key
  refine (values_syncMode whole.consistent).trans ?_
  obtain ⟨on, plain⟩ | back := moves
  · unfold Form.handleKey
    rw [if_pos ⟨on, plain⟩]
    exact values_moveFocus ready.consistent.distinct _
  · unfold Form.handleKey
    rw [if_neg (by simp [back]), if_pos back]
    exact values_moveFocus ready.consistent.distinct _

/-- Moving back to a button gives it the focus. -/
theorem IsReady.focus_handleKey_of_back (ready : form.IsReady) {next : FocusTracker} {id : String}
    (leads : FocusTracker.prev form.form.focus = (next, some id))
    (isButton : id = okLabel ∨ id = Dialog.cancelLabel) :
    (form.handleKey (.plain "backtab")).1.form.focus = next := by
  have listed : ∀ id, id = okLabel ∨ id = Dialog.cancelLabel →
      kinds.lookup id = some (.button id) := by
    rintro id (rfl | rfl) <;> rfl
  have kind := (ready.kind id).trans (listed id isButton)
  have accepted : form.form.accepts id = true := by
    unfold kind? body? at kind
    unfold Form.accepts
    cases found : form.form.widget? id with
    | none => simp [found] at kind
    | some widget =>
      refine Widget.canFocus_of_kind fun isInput => ?_
      simp [found, isInput] at kind
  exact focus_moveFocus leads accepted

/-- Pressing a button keeps all values. -/
theorem IsReady.values_handleKey (ready : form.IsReady) {label : String}
    (pressed : form.pressed? key = some label) :
    (form.handleKey key).1.form.values = form.form.values := by
  have whole := ready.toIsWhole.handleKey key
  unfold pressed? at pressed
  split at pressed
  · next presses =>
    obtain ⟨focused, named⟩ := Option.filter_eq_some_iff.mp pressed
    obtain ⟨widget, found, kind⟩ := ready.toIsWhole.exists_focused focused
    have isButton : widget.body = .button label := by
      have noOther : ∀ label, label = okLabel ∨ label = Dialog.cancelLabel →
          label ∉ inputIds ∧ label ≠ "mode" := by
        rintro label (rfl | rfl) <;> decide
      obtain ⟨noInput, noMode⟩ := noOther label (of_decide_eq_true named)
      obtain ⟨isInput, -⟩ | ⟨isMode, -⟩ | ⟨-, kind⟩ := kind
      · exact absurd isInput noInput
      · exact absurd isMode noMode
      · cases body : widget.body with
        | button other =>
          rw [body] at kind
          exact congrArg WidgetBody.button (Kind.button.inj kind)
        | input input =>
          rw [body] at kind
          contradiction
        | choice choice =>
          rw [body] at kind
          contradiction
    have taken := handleKey_of_focused (stays_of_presses presses) focused found
    refine (values_syncMode whole.consistent).trans ?_
    rw [taken]
    refine values_modify ready.consistent.distinct label fun other otherFound => ?_
    rw [found] at otherFound
    obtain rfl := Option.some.inj otherFound
    simp [Widget.handleKey, isButton]
  · contradiction

theorem text_eq_lookup (consistent : form.form.IsConsistent) (id : String) :
    form.text id = (form.form.values.lookup id).getD "" := by
  rw [lookup_values consistent.distinct]
  rfl

end IpForm

/-! ## Reading the texts back -/

variable {port : Port} {address : Address} {subnet : Network}

theorem exists_of_firstV4? {addresses : List Address} (first : firstV4? addresses = some address) :
    ∃ bits, address = .v4 bits := by
  have isV4 := List.find?_some first
  cases address with
  | v4 bits => exact ⟨bits, rfl⟩
  | v6 bits scope => contradiction

/-- A port has a static address: the first one of version 4, in its subnet. The first gateway of
version 4, if there is one, lies there too. -/
structure HasStaticAddress (port : Port) (address : Address) (subnet : Network) : Prop where
  static : port.dhcp = .known .static
  first : firstV4? port.addresses = some address
  given : port.subnet = some subnet
  made : subnet.IsMade
  inside : subnet.contains address = true
  gatewayInside : ∀ router, firstV4? (port.gateways.getD []) = some router →
    subnet.contains router = true

theorem HasStaticAddress.addressPrefill_eq (has : HasStaticAddress port address subnet) :
    addressPrefill port = Interface.text ⟨address, subnet.length⟩ := by
  unfold addressPrefill
  simp only [has.first, has.given, has.inside, if_true]
  rfl

namespace IpForm

variable {form : IpForm}

/-- The gateway that was filled in is read back, if it lies in the network. -/
theorem gateway_of_prefill {network : Network}
    (entered : form.text "gateway" = gatewayPrefill port)
    (inside : ∀ router, firstV4? (port.gateways.getD []) = some router →
      network.contains router = true) :
    form.gateway network = .ok (firstV4? (port.gateways.getD [])) := by
  unfold IpForm.gateway
  rw [entered, gatewayPrefill]
  cases first : firstV4? (port.gateways.getD []) with
  | none => rfl
  | some router =>
    obtain ⟨bits, rfl⟩ := exists_of_firstV4? first
    simp only [Option.map_some, Option.getD_some, Address.strip_text, Address.text_ne_nil, if_false,
      Address.ofText?_text, inside _ first, if_true]

/-- Written servers of version 4 are read back. -/
theorem dnsServersOf_texts {servers : List Address}
    (all : ∀ server ∈ servers, server.isV4 = true) :
    dnsServersOf (servers.map fun server => server.text.toList) = .ok servers := by
  induction servers with
  | nil => rfl
  | cons server rest inductionHypothesis =>
    obtain ⟨isV4, later⟩ := List.forall_mem_cons.mp all
    cases server with
    | v4 bits =>
      rw [List.map_cons, dnsServersOf]
      simp only [Address.strip_text, Address.text_ne_nil, if_false, Address.ofText?_text,
        inductionHypothesis later]
      rfl
    | v6 bits scope => contradiction

/-- The servers that were filled in are read back. -/
theorem dnsServers_of_prefill (entered : form.text "dns" = dnsPrefill port) :
    form.dnsServers = .ok (port.dnsServers.filter Address.isV4) := by
  have all : ∀ server ∈ port.dnsServers.filter Address.isV4, server.isV4 = true :=
    fun server member => (List.mem_filter.mp member).2
  unfold IpForm.dnsServers
  rw [entered, dnsPrefill]
  generalize port.dnsServers.filter Address.isV4 = servers at all
  by_cases none : servers = []
  · subst none
    rfl
  · have clean : ∀ text ∈ servers.map Address.text, ',' ∉ text.toList := by
      refine List.forall_mem_map.mpr fun server member comma => ?_
      have isV4 := all server member
      cases server with
      | v4 bits =>
        obtain digit | point := Address.isDotted_of_mem comma
        · exact absurd digit (by decide)
        · exact absurd point (by decide)
      | v6 bits scope => contradiction
    have split := splitOn_joinWith (by simpa using none) clean
    rw [List.map_map] at split
    exact (congrArg dnsServersOf split).trans (dnsServersOf_texts all)

/-- A form with the texts that were filled in gives what they were written from. -/
theorem config_of_prefill (has : HasStaticAddress port address subnet)
    (static : form.isStatic = true) (addressEntered : form.text "address" = addressPrefill port)
    (gatewayEntered : form.text "gateway" = gatewayPrefill port)
    (dnsEntered : form.text "dns" = dnsPrefill port) :
    form.config = .ok ⟨false, some ⟨address, subnet.length⟩, firstV4? (port.gateways.getD []),
      port.dnsServers.filter Address.isV4⟩ := by
  rw [has.addressPrefill_eq] at addressEntered
  obtain ⟨bits, rfl⟩ := exists_of_firstV4? has.first
  have fits : subnet.length ≤ 32 := has.made.length_le_of_contains has.inside
  have slash : (Interface.text ⟨.v4 bits, subnet.length⟩).toList.contains '/' = true := by
    simp [Interface.text]
  -- The network that is read with the address is the subnet, where the gateway lies.
  have gateway : form.gateway (Interface.network ⟨.v4 bits, subnet.length⟩) =
      .ok (firstV4? (port.gateways.getD [])) := by
    rw [Interface.network_of_contains has.inside]
    exact gateway_of_prefill gatewayEntered has.gatewayInside
  unfold config
  simp only [static, addressEntered, slash, Bool.not_true, Bool.false_eq_true, if_false,
    Interface.strip_text, Interface.ofText?_text bits fits, gateway,
    dnsServers_of_prefill dnsEntered]
  rfl

end IpForm

/-! ## The dialog -/

namespace Dialog

variable {form : IpForm} {dialog : Dialog} {key : Key}

/-- A dialog with the values that it started with has the texts that were filled in. -/
theorem Asks.text_of_unedited (asks : Asks port form dialog)
    (unedited : dialog.form.values = (ipConfig port).form.values) (id : String) :
    form.text id = (startForm port).text id := by
  have values : form.form.values = (startForm port).form.values := by
    have started : (ipConfig port).form = (startForm port).form :=
      congrArg Content.form (content_ipConfig port)
    rw [← started, ← unedited]
    exact congrArg (fun content => content.form.values) asks.content.symm
  rw [IpForm.text_eq_lookup asks.ready.consistent,
    IpForm.text_eq_lookup (startForm_isReady port).consistent, values]

/-- Submitting a dialog with the values that it started with asks for what the port has. -/
theorem Asks.submits_unedited (asks : Asks port form dialog)
    (has : HasStaticAddress port address subnet)
    (unedited : dialog.form.values = (ipConfig port).form.values)
    (pressed : form.pressed? key = some IpForm.okLabel) :
    (dialog.handleKey key).2 = some (.configRequested port.name
      ⟨false, some ⟨address, subnet.length⟩, firstV4? (port.gateways.getD []),
        port.dnsServers.filter Address.isV4⟩) := by
  have text (id : String) : (form.handleKey key).1.text id = (startForm port).text id := by
    rw [IpForm.text_eq_lookup (asks.ready.handleKey key).consistent,
      asks.ready.values_handleKey pressed, ← IpForm.text_eq_lookup asks.ready.consistent,
      asks.text_of_unedited unedited]
  have static : (form.handleKey key).1.isStatic = true := by
    have started := isStatic_startForm port
    unfold IpForm.isStatic at started ⊢
    rw [text, started, has.static]
    rfl
  have config := IpForm.config_of_prefill has static (text "address") (text "gateway") (text "dns")
  rw [asks.handleKey_of_submits pressed]
  unfold IpForm.submit
  rw [if_neg (not_not_intro rfl), config]
  exact congrArg (fun name => some (Action.configRequested name _)) asks.interface

/-- A key that moves the focus is one for the form. -/
theorem Asks.handleKey_of_moves (asks : Asks port form dialog) (moves : MovesFocus key) :
    Asks port (form.handleKey key).1 (dialog.handleKey key).1 := by
  have noEscape : key.code ≠ "esc" := by
    intro escape
    simp [MovesFocus, escape] at moves
  have silent : form.pressed? key = none := by
    unfold IpForm.pressed?
    rw [if_neg fun pressed => stays_of_presses pressed moves]
  have answer := asks.ready.answer_handleKey key
  rw [silent] at answer
  have taken : Asks port (form.handleKey key).1 _ :=
    asks.withForm asks.interface (asks.ready.handleKey key)
  obtain ⟨title, width, height, buttons, content, rule⟩ := dialog
  obtain rfl : content = .ipConfig form := asks.content
  unfold Dialog.handleKey
  rw [if_neg noEscape]
  simp only [Content.handleKey, answer, Option.map_none]
  exact taken

/-- Moving the focus leaves a dialog with its values. -/
theorem Asks.values_afterKeys (asks : Asks port form dialog) {keys : List Key}
    (moves : ∀ key ∈ keys, MovesFocus key) :
    (dialog.afterKeys keys).form.values = dialog.form.values := by
  induction keys generalizing form dialog with
  | nil => rfl
  | cons key rest inductionHypothesis =>
    obtain ⟨move, later⟩ := List.forall_mem_cons.mp moves
    have moved := asks.handleKey_of_moves move
    refine (inductionHypothesis moved later).trans ?_
    have before : dialog.form = form.form := congrArg Content.form asks.content
    have after : (dialog.handleKey key).1.form = (form.handleKey key).1.form :=
      congrArg Content.form moved.content
    rw [before, after, asks.ready.values_handleKey_of_moves move]

/-- The views of the dialog in order. -/
def views : List String := ["mode", "address", "gateway", "dns", IpForm.okLabel, cancelLabel]

/-- From the choice of the mode, two steps back lead to the button that submits. -/
theorem Asks.reaches_submit (asks : Asks port form dialog)
    (first : form.form.focus = ⟨views, some 0⟩) :
    ∃ keys, (∀ key ∈ keys, MovesFocus key) ∧
      (dialog.afterKeys keys).form.values = dialog.form.values ∧
      (dialog.afterKeys keys).form.focused? = some IpForm.okLabel := by
  have moves : ∀ key ∈ [Key.plain "backtab", Key.plain "backtab"], MovesFocus key := by
    simp [MovesFocus, Key.plain]
  have once := asks.handleKey_of_moves (moves _ List.mem_cons_self)
  have twice := once.handleKey_of_moves (moves _ List.mem_cons_self)
  have toCancel : FocusTracker.prev form.form.focus = (⟨views, some 5⟩, some cancelLabel) := by
    rw [first]
    decide
  have cancel := asks.ready.focus_handleKey_of_back toCancel (.inr rfl)
  have toOk : FocusTracker.prev (form.handleKey (.plain "backtab")).1.form.focus =
      (⟨views, some 4⟩, some IpForm.okLabel) := by
    rw [cancel]
    decide
  have ok := once.ready.focus_handleKey_of_back toOk (.inl rfl)
  refine ⟨_, moves, asks.values_afterKeys moves, ?_⟩
  have reached : (dialog.afterKeys [.plain "backtab", .plain "backtab"]).form =
      ((form.handleKey (.plain "backtab")).1.handleKey (.plain "backtab")).1.form :=
    congrArg Content.form twice.content
  rw [reached, Form.focused?, ok]
  rfl

/-- The dialog for a port with a static address in its subnet, submitted in any way without its
values having been changed, asks for that address with the length of the subnet, the first version 4
gateway and the version 4 DNS servers of the port; and moving the focus alone leads to the button
that submits. -/
theorem unedited_submits (has : HasStaticAddress port address subnet) :
    (∀ keys key, let before := (ipConfig port).afterKeys keys
      before.form.values = (ipConfig port).form.values →
      before.form.focused? = some IpForm.okLabel → presses key = true →
        (before.handleKey key).2 = some (.configRequested port.name
          ⟨false, some ⟨address, subnet.length⟩, firstV4? (port.gateways.getD []),
            port.dnsServers.filter Address.isV4⟩)) ∧
    ∃ keys, (∀ key ∈ keys, MovesFocus key) ∧
      ((ipConfig port).afterKeys keys).form.values = (ipConfig port).form.values ∧
      ((ipConfig port).afterKeys keys).form.focused? = some IpForm.okLabel := by
  constructor
  · intro keys key before unedited focused pressed
    obtain ⟨form, asks⟩ := (ipConfig_asks port).afterKeys keys
    have sameForm : before.form = form.form := congrArg Content.form asks.content
    refine asks.submits_unedited has unedited ?_
    unfold IpForm.pressed?
    rw [if_pos pressed, ← sameForm, focused]
    rfl
  · exact (ipConfig_asks port).reaches_submit rfl

/-- A port whose addresses, gateways and servers are of both versions. -/
def mixedPort : Port :=
  ⟨"wlan0", true, [.v6 1 none, .v4 0x0A000203, .v4 0x0A000204], some [.v6 2 none, .v4 0x0A000001],
    none, .known .static, true, some ⟨.v4 0x0A000000, 20⟩,
    [.v4 0x08080808, .v6 3 none, .v4 0x01010101], ""⟩

/-- Two steps back in the dialog for such a port, the button that submits asks for what the port has
of version 4. -/
theorem unedited_submits_mixed :
    HasStaticAddress mixedPort (.v4 0x0A000203) ⟨.v4 0x0A000000, 20⟩ ∧
      (((ipConfig mixedPort).afterKeys [.plain "backtab", .plain "backtab"]).handleKey
        (.plain "enter")).2 = some (.configRequested "wlan0"
          ⟨false, some ⟨.v4 0x0A000203, 20⟩, some (.v4 0x0A000001),
            [.v4 0x08080808, .v4 0x01010101]⟩) := by
  have has : HasStaticAddress mixedPort (.v4 0x0A000203) ⟨.v4 0x0A000000, 20⟩ :=
    { static := rfl
      first := rfl
      given := rfl
      made := ⟨.v4 0x0A000000, 20, by decide⟩
      inside := by decide
      gatewayInside := by
        intro router first
        obtain rfl : Address.v4 0x0A000001 = router := Option.some.inj first
        decide }
  refine ⟨has, ?_⟩
  exact (unedited_submits has).1 [.plain "backtab", .plain "backtab"] (.plain "enter")
    (by decide +kernel) (by decide +kernel) (by decide)

end Dialog

end NodeConsole.Form
