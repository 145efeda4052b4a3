import NodeConsole.Device.State
import NodeConsole.Panel.Basic
import NodeConsole.Panel.Labels

/-!
# Network ports

Panels for the ports: all of them, one in detail, and those for management.
-/

namespace NodeConsole.Panel

open NodeConsole.Paint NodeConsole.Device NodeConsole.Net

/-- Addresses in a row. -/
def addressesText (addresses : List Address) : String :=
  joinOrDash (addresses.map Address.text)

/-- The row of a port. -/
def portRow (selected : Bool) (port : Port) : Row where
  cells := [.plain port.name, .plain (if port.isManagement then "yes" else "no"),
    .styled (if port.isUp then .of "up" "green" else .of "down" "red"),
    .plain (dhcpLabel port.dhcp.number), .plain (addressesText port.addresses)]
  style := if selected then some "reverse" else none

/-- The row that stands for no ports. -/
def noPortsRow : Row where
  cells := [.plain "-", .plain "-", .plain "-", .plain "-",
    .styled (.of "No interfaces reported" "dim")]

/-- The rows of ports, of which one may be selected by its place. -/
def portRows (selected : Option Int) (network : List Port) : List Row :=
  if network.isEmpty then [noPortsRow]
  else network.mapIdx fun index port => portRow (selected = some (index : Int)) port

/-- The panel of all ports. -/
def interfaces (network : List Port) (selected : Option Int) : Panel :=
  let tone := if network.any fun port => port.lastError ≠ "" then .warn else .ok
  titled "Interfaces" tone <| .table
    { columns := [{ header := "Name", noWrap := true }, { header := "Mgmt", noWrap := true },
        { header := "Link", noWrap := true }, { header := "Mode", noWrap := true },
        { header := "Addresses", overflow := "fold" }]
      rows := portRows selected network }

/-- The panel of one port. -/
def interfaceDetail : Option Port → Panel
  | none => empty "Details" "Select an interface"
  | some port =>
    keyValues ("Details: " ++ port.name) (if port.lastError ≠ "" then .warn else .ok)
      ([("Name", port.name), ("MAC", orDash (port.mac.getD "")),
        ("Mode", dhcpLabel port.dhcp.number),
        ("Subnet", (port.subnet.map Network.text).getD "-"),
        ("Addresses", addressesText port.addresses),
        ("Gateways", addressesText (port.gateways.getD [])),
        ("DNS", addressesText port.dnsServers)] ++
        if port.lastError ≠ "" then [("Last error", port.lastError)] else [])

/-- The panel of the ports for management. -/
def management (network : List Port) : Panel :=
  match network.filter (·.isManagement) with
  | [] => empty "Management" "No management interface"
  | ports =>
    keyValues "Management" .ok (ports.map fun port => (port.name, addressesText port.addresses))

end NodeConsole.Panel
