import Connector.Error
import Connector.Packet

/-! Settings of a node, with their defaults.

- `Settings.validate`: settings that a node can run with, or the first rule they break. -/

namespace Connector

structure GeneralSettings where
  /-- The node's own id in its cluster. -/
  serverId : String := "connector-1"
  /-- The kind of node. Routes whose first segment it is are served here. -/
  serverType : String := "connector"
  deriving DecidableEq, Repr

structure NetworkSettings where
  ip : String := "127.0.0.1"
  port : Nat := 3250
  maxConnection : Nat := 10000
  /-- The longest packet body that a client may send. -/
  maxPackageSize : Nat := 1048576
  connReadBufferSize : Nat := 4096
  packetBufferSize : Nat := 256
  writeBufferSize : Nat := 256
  deriving DecidableEq, Repr

/-- All in seconds. -/
structure HeartbeatSettings where
  interval : Nat := 30
  timeout : Nat := 90
  checkInterval : Nat := 10
  deriving DecidableEq, Repr

structure TracingSettings where
  logDir : String := "logs"
  logFile : String := "starx.log"
  otlpEnabled : Bool := false
  deriving DecidableEq, Repr

structure Settings where
  general : GeneralSettings := {}
  network : NetworkSettings := {}
  heartbeat : HeartbeatSettings := {}
  tracing : TracingSettings := {}
  workerThreads : Nat := 0
  deriving DecidableEq, Repr

namespace HeartbeatSettings

/-- How long a client may be silent, if that is limited. -/
def timeout? (h : HeartbeatSettings) : Option Nat := if h.timeout = 0 then none else some h.timeout

/-- The time between two checks is a second at least. -/
def effectiveCheckInterval (h : HeartbeatSettings) : Nat := max h.checkInterval 1

end HeartbeatSettings

/-- Rules that settings can break. -/
inductive InvalidSettings where
  | emptyServerType
  | emptyQueue
  | packageTooLarge (size : Nat)
  deriving DecidableEq, Repr

def InvalidSettings.toError : InvalidSettings → Error
  | emptyServerType => .invalidValue "general.server_type must not be empty"
  | emptyQueue => .invalidValue "network queue sizes must be greater than 0"
  | packageTooLarge size =>
      .invalidValue s!"network.max_package_size {size} exceeds the wire limit {Packet.maxBodyLength}"

namespace Settings

/-- The worker threads asked for, if their number does not go by the processors. -/
def workerThreads? (s : Settings) : Option Nat :=
  if s.workerThreads = 0 then none else some s.workerThreads

def listenAddress (s : Settings) : String := s!"{s.network.ip}:{s.network.port}"

def validate (s : Settings) : Except InvalidSettings Settings :=
  if s.general.serverType.isEmpty then .error .emptyServerType
  else if s.network.packetBufferSize = 0 || s.network.writeBufferSize = 0 then .error .emptyQueue
  else if Packet.maxBodyLength < s.network.maxPackageSize then
    .error (.packageTooLarge s.network.maxPackageSize)
  else .ok s

end Settings

end Connector
