import NodeConsole.Device.Model
import NodeConsole.Form.Basic
import NodeConsole.Layout.Splits
import NodeConsole.Panel.Network
import NodeConsole.Text.Blank

/-!
# IP configuration

The form that asks how a port shall get its address. Its inputs are enabled only while the static
mode is chosen. What is entered is checked when it is submitted.
-/

namespace NodeConsole.Form

open NodeConsole.Device NodeConsole.Input NodeConsole.Layout NodeConsole.Net NodeConsole.Paint
  NodeConsole.Screen NodeConsole.Text

/-- Why a configuration is refused. -/
inductive ConfigFault where
  | notCidr
  | invalidAddress (text : String)
  | invalidGateway (text : String)
  | gatewayOutside (gateway : Address) (network : Network)
  | invalidDnsServer (text : String)
  deriving DecidableEq, Repr

/-- The text of a fault. -/
def ConfigFault.message : ConfigFault → String
  | notCidr => "address must be in CIDR form, e.g. 192.168.1.10/24"
  | invalidAddress text => "invalid address: " ++ text
  | invalidGateway text => "invalid gateway: " ++ text
  | gatewayOutside gateway network => "gateway " ++ gateway.text ++ " is outside " ++ network.text
  | invalidDnsServer text => "invalid DNS server: " ++ text

/-- The form for a port, with the message on the last submission. -/
structure IpForm where
  form : Form
  interface : String
  error : String := ""
  deriving DecidableEq, Repr

/-- The first version 4 address of a list. -/
def firstV4? (addresses : List Address) : Option Address :=
  addresses.find? Address.isV4

/-- The address that a port has, with the length of its subnet if it lies in it. -/
def addressPrefill (port : Port) : String :=
  match firstV4? port.addresses with
  | none => ""
  | some address =>
    match port.subnet with
    | some subnet =>
      if subnet.contains address then address.text ++ "/" ++ decimalNat subnet.length
      else address.text
    | none => address.text

/-- The gateway that a port has. -/
def gatewayPrefill (port : Port) : String :=
  ((firstV4? (port.gateways.getD [])).map Address.text).getD ""

/-- The version 4 DNS servers that a port has. -/
def dnsPrefill (port : Port) : String :=
  joinWith "," ((port.dnsServers.filter Address.isV4).map Address.text)

namespace IpForm

/-- The options of the mode. -/
def modes : List String := ["DHCP", "Static"]

/-- The choice of the mode. -/
def modeWidget (port : Port) : Widget :=
  ⟨.choice ⟨"Mode", modes, if port.dhcp = .known .static then 1 else 0⟩, false⟩

/-- The names of the inputs. -/
def inputIds : List String := ["address", "gateway", "dns"]

/-- The value of a widget. -/
def text (form : IpForm) (id : String) : String :=
  ((form.form.widget? id).bind Widget.value?).getD ""

/-- The static mode is chosen. -/
def isStatic (form : IpForm) : Bool :=
  form.text "mode" = "Static"

/-- Enables the inputs in static mode, and disables them otherwise. -/
def syncMode (form : IpForm) : IpForm :=
  let enabled := form.isStatic
  { form with
    form := inputIds.foldl (fun form id => form.modify id fun widget => widget.setEnabled enabled)
      form.form }

/-- The form for a port, filled with what the port has. -/
def of (port : Port) : IpForm :=
  let empty : Form := { name := "ipconfig-" ++ port.name }
  let form := (((empty.addWidget "mode" (modeWidget port)).addWidget "address"
    (.input "Address" (addressPrefill port))).addWidget "gateway"
    (.input "Gateway" (gatewayPrefill port))).addWidget "dns" (.input "DNS" (dnsPrefill port))
  let synced := syncMode ⟨form, port.name, ""⟩
  { synced with form := (synced.form.setFocused "mode").1 }

/-- Takes a key; the mode may have changed after it. -/
def handleKey (form : IpForm) (key : Key) : IpForm × Option Action :=
  let (changed, action) := form.form.handleKey key
  (syncMode { form with form := changed }, action)

/-- The gateway that is entered; it must lie in the network. -/
def gateway (form : IpForm) (network : Network) : Except ConfigFault (Option Address) :=
  let entered := form.text "gateway"
  let stripped := strip entered.toList
  if stripped = [] then .ok none
  else
    match Address.ofText? stripped with
    | none => .error (.invalidGateway entered)
    | some gateway =>
      if network.contains gateway then .ok (some gateway)
      else .error (.gatewayOutside gateway network)

/-- The addresses of a list of texts; blank ones are skipped. -/
def dnsServersOf : List (List Char) → Except ConfigFault (List Address)
  | [] => .ok []
  | item :: rest =>
    let stripped := strip item
    if stripped = [] then dnsServersOf rest
    else
      match Address.ofText? stripped with
      | none => .error (.invalidDnsServer (String.ofList stripped))
      | some address => (dnsServersOf rest).map (address :: ·)

/-- The DNS servers that are entered, between commas. -/
def dnsServers (form : IpForm) : Except ConfigFault (List Address) :=
  dnsServersOf (splitOn ',' (form.text "dns").toList)

/-- The configuration that is entered. -/
def config (form : IpForm) : Except ConfigFault PortConfig :=
  if !form.isStatic then .ok { dhcp := true }
  else
    let entered := form.text "address"
    if !entered.toList.contains '/' then .error .notCidr
    else
      match Interface.ofText? (strip entered.toList) with
      | none => .error (.invalidAddress entered)
      | some address => do
        let gateway ← form.gateway address.network
        let dnsServers ← form.dnsServers
        pure ⟨false, some address, gateway, dnsServers⟩

/-- The button that submits. -/
def okLabel : String := "Ok"

/-- A button was pressed. The one that submits asks for the configuration, or leaves a message. -/
def submit (form : IpForm) (button : String) : IpForm × Option Action :=
  if button ≠ okLabel then (form, none)
  else
    match form.config with
    | .error fault => ({ form with error := fault.message }, none)
    | .ok config => ({ form with error := "" }, some (.configRequested form.interface config))

/-- The heights of the rows. -/
def rowHeights : List Int := [1, 1, 1, 1, 1, 1, 1, 2]

/-- What a widget paints into a row. -/
def renderWidget (form : IpForm) (id : String) (area : Rect) : List Stroke :=
  ((form.form.widget? id).map fun widget => widget.render area).getD []

/-- Paints the form. -/
def render (form : IpForm) (area : Rect) (model : Model) : List Stroke :=
  let rows := stackRows area rowHeights
  let row (index : Nat) : Rect := rows.getD index area
  let current := match model.port? form.interface with
    | some port =>
      let text := "current: " ++ Panel.addressesText port.addresses
      [Stroke.paint (row 1) (.text (.of text "dim"))]
    | none => []
  let error := if form.error = "" then []
    else [Stroke.paint (row 7) (.text (.of form.error "bold red"))]
  .paint (row 0) (.text (.of ("Interface " ++ form.interface) "bold")) :: current ++
    form.renderWidget "mode" (row 3) ++ form.renderWidget "address" (row 4) ++
    form.renderWidget "gateway" (row 5) ++ form.renderWidget "dns" (row 6) ++ error

end IpForm

end NodeConsole.Form
