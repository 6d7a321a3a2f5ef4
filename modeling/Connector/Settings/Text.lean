import Connector.Json.Text
import Connector.Settings

/-! Settings as indented JSON.

- `Settings.json`: every setting, in the order in which the structures list them. -/

namespace Connector

def GeneralSettings.json (s : GeneralSettings) : String :=
  Json.indented 2 [
    ("server_id", Json.quote s.serverId),
    ("server_type", Json.quote s.serverType)]

def NetworkSettings.json (s : NetworkSettings) : String :=
  Json.indented 2 [
    ("ip", Json.quote s.ip),
    ("port", toString s.port),
    ("max_connection", toString s.maxConnection),
    ("max_package_size", toString s.maxPackageSize),
    ("conn_read_buffer_size", toString s.connReadBufferSize),
    ("packet_buffer_size", toString s.packetBufferSize),
    ("write_buffer_size", toString s.writeBufferSize)]

def HeartbeatSettings.json (s : HeartbeatSettings) : String :=
  Json.indented 2 [
    ("interval", toString s.interval),
    ("timeout", toString s.timeout),
    ("check_interval", toString s.checkInterval)]

def TracingSettings.json (s : TracingSettings) : String :=
  Json.indented 2 [
    ("log_dir", Json.quote s.logDir),
    ("log_file", Json.quote s.logFile),
    ("otlp_enabled", if s.otlpEnabled then "true" else "false")]

def Settings.json (s : Settings) : String :=
  Json.indented 0 [
    ("general", s.general.json),
    ("network", s.network.json),
    ("heartbeat", s.heartbeat.json),
    ("tracing", s.tracing.json),
    ("worker_threads", toString s.workerThreads)]

end Connector
