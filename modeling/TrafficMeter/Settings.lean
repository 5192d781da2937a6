/-
Module: TrafficMeter.Settings
Purpose: The settings of the whole program: defaults, and which settings can be used.
Main exports: WebSettings, Settings, SettingsFault, SettingsError, Settings.check
-/
import TrafficMeter.Agent
import TrafficMeter.Delivery.Uplink
import TrafficMeter.Net.IpAddress.Reader

namespace TrafficMeter

open Delivery Net

/-- Where sessions are taken over HTTP, if they are. -/
structure WebSettings where
  enabled : Bool := true
  bindAddress : String := "0.0.0.0"
  port : UInt16 := 8088
deriving DecidableEq, Repr, Inhabited

structure Settings extends AgentSettings where
  collector : UplinkSettings := {}
  web : WebSettings := {}
deriving DecidableEq, Repr, Inhabited

/-- What makes settings unusable. -/
inductive SettingsFault where
  | notPositive (name : String)
  | noSpoolPath
  | collectorAddress (text : String)
  | bindAddress (text : String)
deriving DecidableEq, Repr

def SettingsFault.message : SettingsFault → String
  | .notPositive name => s!"{name} must be > 0"
  | .noSpoolPath => "report.spool_path must not be empty"
  | .collectorAddress text => s!"collector.address '{text}' is not a socket address"
  | .bindAddress text => s!"web.bind_address '{text}' is not an IP address"

/-- Why there are no settings. -/
inductive SettingsError where
  | io (reason : String)
  | malformed (reason : String)
  | invalidValue (reason : String)
deriving DecidableEq, Repr

def SettingsError.message : SettingsError → String
  | .io reason => s!"IO error: {reason}"
  | .malformed reason => s!"TOML parsing error: {reason}"
  | .invalidValue reason => s!"Invalid configuration value: {reason}"

namespace Settings

/-- Where reports are sent. -/
def collectorAddress (settings : Settings) : Except SettingsFault SocketAddress :=
  match SocketAddress.read? settings.collector.address with
  | some address => .ok address
  | none => .error (.collectorAddress settings.collector.address)

/-- Where sessions are taken. -/
def webAddress (settings : Settings) : Except SettingsFault SocketAddress :=
  match IpAddress.read? settings.web.bindAddress with
  | some ip => .ok { ip, port := settings.web.port }
  | none => .error (.bindAddress settings.web.bindAddress)

/-- The settings that must not be zero, under their full names, in the order in which they are
looked at. -/
def positive (settings : Settings) : List (String × Nat) :=
  [("store.capacity", settings.store.capacity),
    ("store.harvest_interval_secs", settings.store.harvestIntervalSecs.toNat),
    ("report.queue_capacity", settings.delivery.queueCapacity),
    ("report.report_interval_secs", settings.delivery.reportIntervalSecs.toNat),
    ("report.retry_backoff_secs", settings.delivery.retryBackoffSecs.toNat),
    ("report.poll_interval_secs", settings.delivery.pollIntervalSecs.toNat),
    ("capture.read_timeout_ms", settings.capture.readTimeoutMs.toNat),
    ("capture.snapshot_len", settings.capture.snapshotLength)]

/-- Look for the first fault: a zero, an empty path, an address that is none.  The address of an
HTTP interface that is switched off is not looked at. -/
def check (settings : Settings) : Except SettingsFault Unit := do
  if let some (name, _) := settings.positive.find? fun entry => entry.2 = 0 then
    throw (.notPositive name)
  if settings.delivery.spoolPath.isEmpty then throw .noSpoolPath
  let _ ← settings.collectorAddress
  if settings.web.enabled then
    let _ ← settings.webAddress

end Settings

end TrafficMeter
