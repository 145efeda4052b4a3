import NodeConsole.Device.Model

/-!
# Topics

What a node reports, where its files are found, and how their messages change the model.
-/

namespace NodeConsole.Collector

open NodeConsole.Wire NodeConsole.Device

/-- A topic. -/
inductive Topic where
  | network | apps | vault | downloader | node | summary | onboarding | kernelLog
  deriving DecidableEq, Repr

namespace Topic

/-- All topics. -/
def all : List Topic :=
  [.network, .apps, .vault, .downloader, .node, .summary, .onboarding, .kernelLog]

/-- The name of a topic. -/
def name : Topic → String
  | network => "network"
  | apps => "apps"
  | vault => "vault"
  | downloader => "downloader"
  | node => "node"
  | summary => "summary"
  | onboarding => "onboarding"
  | kernelLog => "dmesg"

/-- The topic of a name. -/
def ofName? (name : String) : Option Topic :=
  all.find? fun topic => topic.name = name

/-- Where the files of a topic are found, unless the configuration says otherwise. -/
def defaultPattern : Topic → String
  | network => "nim/DeviceNetworkStatus/global.json"
  | apps => "zedmanager/AppInstanceStatus/*.json"
  | vault => "vaultmgr/VaultStatus/*.json"
  | downloader => "downloader/DownloaderStatus/*.json"
  | node => "monitor/NodeStatus/global.json"
  | summary => "zedmanager/AppInstanceSummary/global.json"
  | onboarding => "zedclient/OnboardingStatus/global.json"
  | kernelLog => "/dev/kmsg"

end Topic

/-- A topic whose newest message is all there is to know, and the update that a message makes. -/
inductive StatusTopic where
  | node | onboarding | summary | network | vault | downloader
  deriving DecidableEq, Repr

namespace StatusTopic

/-- The topic. -/
def topic : StatusTopic → Topic
  | node => .node
  | onboarding => .onboarding
  | summary => .summary
  | network => .network
  | vault => .vault
  | downloader => .downloader

/-- All status topics. -/
def all : List StatusTopic :=
  [.node, .onboarding, .summary, .network, .vault, .downloader]

/-- The status topic of a name. -/
def ofName? (name : String) : Option StatusTopic :=
  all.find? fun topic => topic.topic.name = name

/-- The update of a message. -/
def update (topic : StatusTopic) (payload : Value) : Reading Update :=
  match topic with
  | node => Update.node <$> nodeReport payload
  | onboarding => Update.onboarding <$> onboardingReport payload
  | summary => Update.summary <$> summaryReport payload
  | network => Update.network <$> networkStatus payload
  | vault => Update.vault <$> vaultReport payload
  | downloader => Update.downloader <$> downloadStatus payload

end StatusTopic

end NodeConsole.Collector
