import NodeConsole.Proofs.Form.IpDialog
import NodeConsole.Proofs.Net.Membership
import NodeConsole.Proofs.Steps

/-!
# What the IP dialog asks for

A configuration that the dialog for a port asks for is sound, whatever was entered: DHCP and nothing
else, or a static address with a gateway in its network, if any, and readable DNS servers. Pressing
the button that submits either asks for one and clears the message, or leaves a message and asks for
nothing: `handleKey_submits`.
-/

namespace NodeConsole

open NodeConsole.Device NodeConsole.Input NodeConsole.Net NodeConsole.Screen NodeConsole.Text

/-! ## Sound configurations -/

namespace Net

/-- A configuration that can be given to a port: DHCP, and nothing else; or a static address, with a
gateway of its version that shares the bits of its network, if there is one, and DNS servers that
have been read from texts. -/
inductive PortConfig.IsSound : PortConfig → Prop where
  | dhcp : IsSound ⟨true, none, none, []⟩
  | static {address : Interface} {gateway : Option Address} {dnsServers : List Address}
      (addressIsRead : ∃ text, Interface.ofText? text = some address)
      (gatewayInside : ∀ router, gateway = some router → address.network.contains router = true ∧
        address.address.AgreesIn address.length router)
      (serversAreRead : ∀ server ∈ dnsServers, ∃ text, Address.ofText? text = some server) :
      IsSound ⟨false, some address, gateway, dnsServers⟩

end Net

/-! ## Submitting -/

namespace Form

theorem ConfigFault.message_ne_empty (fault : ConfigFault) : fault.message ≠ "" := by
  unfold message
  split <;> simp

namespace IpForm

/-- A gateway that is accepted lies in the network. -/
theorem contains_of_gateway {form : IpForm} {network : Network} {gateway : Option Address}
    (accepted : form.gateway network = .ok gateway) (router : Address)
    (entered : gateway = some router) : network.contains router = true := by
  unfold IpForm.gateway at accepted
  subst entered
  dsimp only at accepted
  -- A blank text gives no gateway, one that cannot be read or lies outside is refused.
  split at accepted
  · cases accepted
  · split at accepted
    · cases accepted
    · split at accepted
      · next inside =>
        cases accepted
        exact inside
      · cases accepted

/-- DNS servers that are accepted have been read from the items. -/
theorem read_of_dnsServersOf {items : List (List Char)} {servers : List Address}
    (accepted : dnsServersOf items = .ok servers) :
    ∀ server ∈ servers, ∃ item ∈ items, Address.ofText? (strip item) = some server := by
  induction items generalizing servers with
  | nil =>
    cases accepted
    simp
  | cons item rest inductionHypothesis =>
    have later {found : List Address} (accepted : dnsServersOf rest = .ok found) :
        ∀ server ∈ found, ∃ other ∈ item :: rest, Address.ofText? (strip other) = some server := by
      intro server member
      obtain ⟨other, otherMember, read⟩ := inductionHypothesis accepted server member
      exact ⟨other, List.mem_cons_of_mem item otherMember, read⟩
    unfold dnsServersOf at accepted
    dsimp only at accepted
    split at accepted
    · exact later accepted
    · split at accepted
      · cases accepted
      · next address read =>
        obtain ⟨found, acceptedRest, rfl⟩ := map_eq_ok.mp accepted
        intro server member
        obtain rfl | member := List.mem_cons.mp member
        · exact ⟨item, List.mem_cons_self, read⟩
        · exact later acceptedRest server member

/-- A configuration that is accepted is sound. -/
theorem isSound_of_config {form : IpForm} {config : PortConfig}
    (accepted : form.config = .ok config) : config.IsSound := by
  unfold IpForm.config at accepted
  -- The checks in their order: the mode, the slash, the address, the gateway and the servers.
  split at accepted
  · cases accepted
    exact .dhcp
  · dsimp only at accepted
    split at accepted
    · cases accepted
    · split at accepted
      · cases accepted
      · next address addressRead =>
        obtain ⟨gateway, gatewayAccepted, accepted⟩ := bind_eq_ok.mp accepted
        obtain ⟨servers, serversAccepted, accepted⟩ := bind_eq_ok.mp accepted
        cases accepted
        refine .static ⟨_, addressRead⟩ (fun router entered => ?_) fun server member => ?_
        · have inside := contains_of_gateway gatewayAccepted router entered
          exact ⟨inside, (Interface.contains_network_iff
            (Interface.length_le_width addressRead) router).mp inside⟩
        · obtain ⟨item, -, read⟩ := read_of_dnsServersOf serversAccepted server member
          exact ⟨strip item, read⟩

/-- What becomes of a submission: a sound configuration is asked for and there is no message, or
nothing is asked for and there is one. -/
theorem submit_cases (form : IpForm) :
    (∃ config : PortConfig, config.IsSound ∧ form.submit okLabel =
      ({ form with error := "" }, some (.configRequested form.interface config))) ∨
    ∃ error, error ≠ "" ∧ form.submit okLabel = ({ form with error := error }, none) := by
  unfold submit
  rw [if_neg (not_not_intro rfl)]
  split
  · next fault _ => exact .inr ⟨fault.message, fault.message_ne_empty, rfl⟩
  · next config accepted => exact .inl ⟨config, isSound_of_config accepted, rfl⟩

end IpForm

namespace Dialog

namespace Asks

variable {port : Port} {form : IpForm} {dialog : Dialog} {key : Key}

/-- Pressing the button that submits asks for a sound configuration and leaves no message, or leaves
a message and asks for nothing. -/
theorem handleKey_of_pressed (asks : Asks port form dialog)
    (pressed : form.pressed? key = some IpForm.okLabel) :
    ∃ next, (dialog.handleKey key).1.content = .ipConfig next ∧
      ((∃ config : PortConfig, config.IsSound ∧
          (dialog.handleKey key).2 = some (.configRequested port.name config)) ∧ next.error = "" ∨
        (dialog.handleKey key).2 = none ∧ next.error ≠ "") := by
  obtain ⟨notPressed, -, -⟩ | ⟨-, next, interface, -, submitted⟩ := asks.handleKey_cases key
  · exact absurd pressed notPressed
  · rw [submitted, ← interface]
    obtain ⟨config, sound, asked⟩ | ⟨error, some, refused⟩ := next.submit_cases
    · rw [asked]
      exact ⟨_, rfl, .inl ⟨⟨config, sound, rfl⟩, rfl⟩⟩
    · rw [refused]
      exact ⟨_, rfl, .inr ⟨rfl, some⟩⟩

/-- The dialog answers nothing, that it is dismissed, or with a sound configuration of the port. -/
theorem answer_cases (asks : Asks port form dialog) (key : Key) :
    (dialog.handleKey key).2 = none ∨
      (dialog.handleKey key).2 = some (.dismissDialog dialog.title) ∨
        ∃ config : PortConfig, config.IsSound ∧
          (dialog.handleKey key).2 = some (.configRequested port.name config) := by
  obtain ⟨-, -, silent | dismissed⟩ | ⟨pressed, -⟩ := asks.handleKey_cases key
  · exact .inl silent
  · exact .inr (.inl dismissed)
  · obtain ⟨next, -, ⟨asked, -⟩ | ⟨silent, -⟩⟩ := asks.handleKey_of_pressed pressed
    · exact .inr (.inr asked)
    · exact .inl silent

end Asks

/-- What the dialog for a port asks for is a sound configuration of that port; and pressing the
button that submits either asks for one and leaves no message, or leaves a message and asks for
nothing. -/
theorem handleKey_submits (port : Port) (keys : List Key) (key : Key) :
    let before := (ipConfig port).afterKeys keys
    (∀ interface config, (before.handleKey key).2 = some (.configRequested interface config) →
      interface = port.name ∧ config.IsSound) ∧
    (before.form.focused? = some IpForm.okLabel → presses key = true →
      ∃ form, (before.handleKey key).1.content = .ipConfig form ∧
        ((∃ config, (before.handleKey key).2 = some (.configRequested port.name config)) ∧
            form.error = "" ∨
          (before.handleKey key).2 = none ∧ form.error ≠ "")) := by
  intro before
  obtain ⟨form, asks⟩ := (ipConfig_asks port).afterKeys keys
  refine ⟨fun interface config requested => ?_, fun focused pressed => ?_⟩
  · obtain silent | dismissed | ⟨asked, sound, answer⟩ := asks.answer_cases key
    · have both := requested.symm.trans silent
      contradiction
    · have both := requested.symm.trans dismissed
      cases both
    · have both := requested.symm.trans answer
      cases both
      exact ⟨rfl, sound⟩
  · have sameForm : before.form = form.form := congrArg Content.form asks.content
    have pressedOk : form.pressed? key = some IpForm.okLabel := by
      unfold IpForm.pressed?
      rw [if_pos pressed, ← sameForm, focused]
      rfl
    obtain ⟨next, content, ⟨⟨config, -, asked⟩, cleared⟩ | refused⟩ :=
      asks.handleKey_of_pressed pressedOk
    · exact ⟨next, content, .inl ⟨⟨config, asked⟩, cleared⟩⟩
    · exact ⟨next, content, .inr refused⟩

/-- A port with a static address, in the dialog after two steps back. -/
def staticDialog : Dialog :=
  (ipConfig ⟨"eth0", true, [.v4 0xC0A8010A], some [.v4 0xC0A80101], none, .known .static, true,
    some ⟨.v4 0xC0A80100, 24⟩, [.v4 0x08080808], ""⟩).afterKeys [.plain "backtab", .plain "backtab"]

/-- The dialog for a port with a static address asks for that address again when the button that
submits, two steps back, is pressed; the configuration is sound, and there is no message. -/
theorem handleKey_submits_static :
    let config : PortConfig :=
      ⟨false, some ⟨.v4 0xC0A8010A, 24⟩, some (.v4 0xC0A80101), [.v4 0x08080808]⟩
    staticDialog.form.focused? = some IpForm.okLabel ∧ presses (.plain "enter") = true ∧
      (staticDialog.handleKey (.plain "enter")).2 = some (.configRequested "eth0" config) ∧
        config.IsSound ∧
          ∃ form, (staticDialog.handleKey (.plain "enter")).1.content = .ipConfig form ∧
            form.error = "" := by
  intro config
  have focused : staticDialog.form.focused? = some IpForm.okLabel := by decide +kernel
  have pressed : presses (.plain "enter") = true := by decide
  have answer : (staticDialog.handleKey (.plain "enter")).2 =
      some (.configRequested "eth0" config) := by rfl
  obtain ⟨requests, submits⟩ := handleKey_submits _ _ (.plain "enter")
  refine ⟨focused, pressed, answer, (requests "eth0" config answer).2, ?_⟩
  obtain ⟨form, content, ⟨-, cleared⟩ | ⟨silent, -⟩⟩ := submits focused pressed
  · exact ⟨form, content, cleared⟩
  · have both := answer.symm.trans silent
    contradiction

end Dialog

end Form

end NodeConsole
