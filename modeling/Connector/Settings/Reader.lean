import Connector.Decimal
import Connector.Settings
import Connector.Settings.Source
import Connector.Text.Hex
import Connector.Text.Utf8

/-! Settings out of their sources.

- `Settings.ofValue?`: the settings that a value tree gives, with defaults for what it leaves out.
- `Settings.load`: the settings of a node, from a file and the environment, or why it cannot run with them. -/

namespace Connector

/-! ## Scalars -/

namespace Value

/-- Words for yes and no. -/
def word? (s : String) : Option Bool :=
  let lower := s.toLower
  if lower ∈ ["true", "on", "yes"] then some true
  else if lower ∈ ["false", "off", "no"] then some false
  else none

/-- Digits with or without a plus sign. Beyond 64 bits all numbers are one. -/
def digits? (s : String) : Option Nat :=
  let digits := match s.toList with
    | '+' :: rest => rest
    | cs => cs
  if digits.isEmpty || !digits.all Char.isDigit then none
  else some (Text.valueUpTo 0x10000000000000000 10 digits)

/-- A number without a sign, up to a bound of 64 bits at most. Fractions of a half and more are rounded
away from zero. -/
def natural? (bound : Nat) (v : Value) : Option Nat := do
  let n ← match v with
    | .boolean b => some b.toNat
    | .integer n => if 0 ≤ n then some n.toNat else none
    | .real x => some x.round.toUInt64.toNat
    | .text s =>
        match word? s with
        | some b => some b.toNat
        | none => digits? s
    | _ => none
  if n ≤ bound then some n else none

def boolean? : Value → Option Bool
  | .boolean b => some b
  | .integer n => some (n ≠ 0)
  | .real x => some (x != 0.0)
  | .text s => if s = "1" then some true else if s = "0" then some false else word? s
  | _ => none

def text? : Value → Option String
  | .boolean b => some (if b then "true" else "false")
  | .integer n => some (toString n)
  | .real x => some (Decimal.write x)
  | .text s => some s
  | _ => none

end Value

/-! ## Sections -/

namespace Settings

/-- A setting by its name in a table, or by its place in an array. What a section leaves out has its
default. -/
def setting? {α : Type} (v : Value) (place : Nat) (name : String) (read : Value → Option α)
    (default : α) : Option α :=
  match v with
  | .table fields => ((fields.lookup name).map read).getD (some default)
  | .array items => (items[place]?.map read).getD (some default)
  | _ => none

def maxPort : Nat := 0xffff

def maxCount : Nat := 0xffffffffffffffff

def count? : Value → Option Nat := Value.natural? maxCount

end Settings

open Settings (setting? count? maxPort)

def GeneralSettings.ofValue? (v : Value) : Option GeneralSettings := do
  let default : GeneralSettings := {}
  return {
    serverId := ← setting? v 0 "server_id" Value.text? default.serverId
    serverType := ← setting? v 1 "server_type" Value.text? default.serverType }

def NetworkSettings.ofValue? (v : Value) : Option NetworkSettings := do
  let default : NetworkSettings := {}
  return {
    ip := ← setting? v 0 "ip" Value.text? default.ip
    port := ← setting? v 1 "port" (Value.natural? maxPort) default.port
    maxConnection := ← setting? v 2 "max_connection" count? default.maxConnection
    maxPackageSize := ← setting? v 3 "max_package_size" count? default.maxPackageSize
    connReadBufferSize := ← setting? v 4 "conn_read_buffer_size" count? default.connReadBufferSize
    packetBufferSize := ← setting? v 5 "packet_buffer_size" count? default.packetBufferSize
    writeBufferSize := ← setting? v 6 "write_buffer_size" count? default.writeBufferSize }

def HeartbeatSettings.ofValue? (v : Value) : Option HeartbeatSettings := do
  let default : HeartbeatSettings := {}
  return {
    interval := ← setting? v 0 "interval" count? default.interval
    timeout := ← setting? v 1 "timeout" count? default.timeout
    checkInterval := ← setting? v 2 "check_interval" count? default.checkInterval }

def TracingSettings.ofValue? (v : Value) : Option TracingSettings := do
  let default : TracingSettings := {}
  return {
    logDir := ← setting? v 0 "log_dir" Value.text? default.logDir
    logFile := ← setting? v 1 "log_file" Value.text? default.logFile
    otlpEnabled := ← setting? v 2 "otlp_enabled" Value.boolean? default.otlpEnabled }

namespace Settings

def ofValue? (v : Value) : Option Settings := do
  let default : Settings := {}
  return {
    general := ← setting? v 0 "general" GeneralSettings.ofValue? default.general
    network := ← setting? v 1 "network" NetworkSettings.ofValue? default.network
    heartbeat := ← setting? v 2 "heartbeat" HeartbeatSettings.ofValue? default.heartbeat
    tracing := ← setting? v 3 "tracing" TracingSettings.ofValue? default.tracing
    workerThreads := ← setting? v 4 "worker_threads" count? default.workerThreads }

/-! ## Loading -/

/-- The settings that a value tree gives, if a node can run with them. -/
def accept (root : Value) : Except Error Settings :=
  match ofValue? root with
  | none => .error .configFile
  | some settings => settings.validate.mapError InvalidSettings.toError

def load (files : Directory) (environment : Environment) (path : String) : Except Failure Settings := do
  (accept (← gather files environment path)).mapError .refused

/-- Paths that are no text are refused before anything is looked up. -/
def loadOctets (files : Directory) (environment : Environment) (path : Bytes) : Except Failure Settings :=
  match Utf8.decode path with
  | .ok text => load files environment text
  | .error _ => .error (.refused (.invalidValue s!"config file path: {Utf8.lossy path}"))

end Settings

end Connector
