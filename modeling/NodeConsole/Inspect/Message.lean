import NodeConsole.Device.Model
import NodeConsole.Inspect.Basic
import NodeConsole.Net.Network

/-!
# Messages as data

Every message names its type, and has all its fields under the names that its sender knows. A coded
state has its name and its number, or only the number if it has no name.
-/

namespace NodeConsole.Inspect

open NodeConsole.Device NodeConsole.Net NodeConsole.Wire

instance {State : Type} [Codes State] : Inspect (Coded State) where
  data
    | .known state => .object [field "enum" (Codes.name state), field "value" (Codes.code state)]
    | .other code => data code

instance : Inspect Register where
  data := Register.toValue

instance : Inspect ErrorDescription where
  data found := typed "ErrorDescription"
    [field "error" found.error, field "error_time" found.time, field "severity" found.severity]

instance : Inspect AppStatus where
  data found := typed "AppInstanceStatus"
    [field "uuid" found.uuid, field "version" found.version,
     field "display_name" found.displayName, field "state" found.state, field "error" found.error,
     field "activated" found.activated, field "boot_time" found.bootTime]

instance : Inspect AppList where
  data found := typed "AppsList" [field "apps" found.apps]

instance : Inspect PortStatus where
  data found := typed "NetworkPortStatus"
    [field "if_name" found.name, field "is_mgmt" found.isManagement, field "dhcp" found.dhcp,
     field "up" found.isUp, field "ipv4_subnet" found.subnet,
     field "dns_servers" found.dnsServers, field "addresses" found.addresses,
     field "mac" found.mac, field "default_routers" found.routers, field "mtu" found.mtu,
     field "last_error" found.lastError]

instance : Inspect NetworkStatus where
  data found := typed "DeviceNetworkStatus" [field "dpc_key" found.key, field "ports" found.ports]

instance : Inspect VaultReport where
  data found := typed "EveVaultStatus"
    [field "name" found.name, field "status" found.status, field "pcr_status" found.registerUse,
     field "conversion_complete" found.conversionComplete,
     field "mismatching_pcrs" found.mismatches, field "error" found.error]

instance : Inspect DownloadStatus where
  data found := typed "DownloaderStatus"
    [field "name" found.name, field "image_sha256" found.imageSha256, field "state" found.state,
     field "progress" found.progress, field "total_size" found.totalSize,
     field "current_size" found.currentSize, field "last_use" found.lastUse,
     field "mod_time" found.modTime, field "error" found.error]

instance : Inspect SummaryReport where
  data found := typed "AppInstanceSummaryMessage"
    [field "total_starting" found.starting, field "total_running" found.running,
     field "total_stopping" found.stopping, field "total_error" found.error]

instance : Inspect NodeReport where
  data found := typed "EveNodeStatus"
    [field "server" found.server, field "node_uuid" found.nodeUuid,
     field "onboarded" found.onboarded, field "app_instance_summary" found.summary]

instance : Inspect OnboardingReport where
  data found := typed "EveOnboardingStatus"
    [field "device_uuid" found.deviceUuid, field "hardware_model" found.hardwareModel]

instance : Inspect Port where
  data found := typed "NetworkInterface"
    [field "name" found.name, field "is_mgmt" found.isManagement,
     field "addresses" found.addresses, field "gateways" found.gateways, field "mac" found.mac,
     field "dhcp" found.dhcp, field "up" found.isUp, field "subnet" found.subnet,
     field "dns_servers" found.dnsServers, field "last_error" found.lastError]

instance : Inspect KernelRecord where
  data found := typed "DmesgEntry"
    [field "level" found.level, field "sequence" found.sequence,
     field "timestamp_us" found.micros, field "message" found.message]

instance : Inspect Update where
  data
    | .node report => data report
    | .onboarding report => data report
    | .summary report => data report
    | .app status => data status
    | .appList list => data list
    | .network status => data status
    | .vault report => data report
    | .downloader status => data status
    | .kernelLog records => data records

instance : Inspect PortConfig where
  data found := typed "InterfaceConfig"
    [field "dhcp" found.dhcp, field "address" found.address, field "gateway" found.gateway,
     field "dns_servers" found.dnsServers, field "describe" found.describe]

end NodeConsole.Inspect
