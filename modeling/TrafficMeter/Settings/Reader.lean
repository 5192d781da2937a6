/-
Module: TrafficMeter.Settings.Reader
Purpose: Take settings out of data, of which every part may be left out, and out of the text of a
  settings file.
Main exports: Settings.ofValue?, Settings.withSpoolPath, Settings.ofText, Settings.ofFile
-/
import TrafficMeter.Data.Toml.Reader
import TrafficMeter.Settings

namespace TrafficMeter

open Data Delivery Net Usage

/-- A number of bytes or items as a value. -/
def sizeOf? (value : Value) : Option Nat :=
  value.uint64?.map UInt64.toNat

/-- The capture settings that a value describes. -/
def captureOf? (surplus : Bool) (value : Value) : Option CaptureSettings := do
  let fields ← value.fields? ["filter", "interfaces", "read_timeout_ms", "snapshot_len"] surplus
  let default : CaptureSettings := {}
  return {
    filter := ← fields.orElse "filter" default.filter Value.text?
    interfaces := ← fields.orElse "interfaces" default.interfaces (Value.each? Value.text?)
    readTimeoutMs := ← fields.orElse "read_timeout_ms" default.readTimeoutMs Value.uint64?
    snapshotLength := ← fields.orElse "snapshot_len" default.snapshotLength sizeOf? }

/-- The store settings that a value describes. -/
def storeOf? (surplus : Bool) (value : Value) : Option StoreSettings := do
  let fields ← value.fields? ["capacity", "harvest_interval_secs"] surplus
  let default : StoreSettings := {}
  return {
    capacity := ← fields.orElse "capacity" default.capacity sizeOf?
    harvestIntervalSecs :=
      ← fields.orElse "harvest_interval_secs" default.harvestIntervalSecs Value.uint64? }

/-- The delivery settings that a value describes. -/
def deliveryOf? (surplus : Bool) (value : Value) : Option DeliverySettings := do
  let fields ← value.fields? ["queue_capacity", "report_interval_secs", "retry_backoff_secs",
    "poll_interval_secs", "spool_path", "compact_threshold_bytes"] surplus
  let default : DeliverySettings := {}
  return {
    queueCapacity := ← fields.orElse "queue_capacity" default.queueCapacity sizeOf?
    reportIntervalSecs :=
      ← fields.orElse "report_interval_secs" default.reportIntervalSecs Value.uint64?
    retryBackoffSecs := ← fields.orElse "retry_backoff_secs" default.retryBackoffSecs Value.uint64?
    pollIntervalSecs := ← fields.orElse "poll_interval_secs" default.pollIntervalSecs Value.uint64?
    spoolPath := ← fields.orElse "spool_path" default.spoolPath Value.text?
    compactThresholdBytes :=
      ← fields.orElse "compact_threshold_bytes" default.compactThresholdBytes Value.uint64? }

/-- The uplink settings that a value describes. -/
def uplinkOf? (surplus : Bool) (value : Value) : Option UplinkSettings := do
  let fields ← value.fields? ["address", "connect_timeout_secs", "io_timeout_secs"] surplus
  let default : UplinkSettings := {}
  return {
    address := ← fields.orElse "address" default.address Value.text?
    connectTimeoutSecs :=
      ← fields.orElse "connect_timeout_secs" default.connectTimeoutSecs Value.uint64?
    ioTimeoutSecs := ← fields.orElse "io_timeout_secs" default.ioTimeoutSecs Value.uint64? }

/-- The web settings that a value describes. -/
def webOf? (surplus : Bool) (value : Value) : Option WebSettings := do
  let fields ← value.fields? ["enabled", "bind_address", "port"] surplus
  let default : WebSettings := {}
  return {
    enabled := ← fields.orElse "enabled" default.enabled Value.flag?
    bindAddress := ← fields.orElse "bind_address" default.bindAddress Value.text?
    port := ← fields.orElse "port" default.port Value.uint16? }

namespace Settings

/-- The settings that a value describes; what is left out keeps its default.  With `surplus`,
lists may be longer than what they describe has fields. -/
def ofValue? (surplus : Bool) (value : Value) : Option Settings := do
  let fields ← value.fields? ["capture", "store", "report", "collector", "web"] surplus
  return {
    capture := ← fields.orElse "capture" {} (captureOf? surplus)
    store := ← fields.orElse "store" {} (storeOf? surplus)
    delivery := ← fields.orElse "report" {} (deliveryOf? surplus)
    collector := ← fields.orElse "collector" {} (uplinkOf? surplus)
    web := ← fields.orElse "web" {} (webOf? surplus) }

/-- The settings with another spool path, unless that is blank. -/
def withSpoolPath (settings : Settings) (path : String) : Settings :=
  if path.toList.all Text.isBlank then settings
  else { settings with delivery := { settings.delivery with spoolPath := path } }

/-- The settings in the text of a settings file, with the spool path that the environment names.
They must be usable. -/
def ofText (spoolPath : Option String) (text : String) : Except SettingsError Settings := do
  let some written := (Toml.read? text).bind (ofValue? true)
    | throw (.malformed "the text describes no settings")
  let settings := spoolPath.elim written written.withSpoolPath
  settings.check.mapError fun fault => .invalidValue fault.message
  return settings

/-- The settings in a file, of which the bytes are given if it can be read. -/
def ofFile (spoolPath : Option String) (content : Except String Bytes) :
    Except SettingsError Settings := do
  let bytes ← content.mapError .io
  let some text := Bytes.text? bytes | throw (.io "the file is no text")
  ofText spoolPath text

end Settings

end TrafficMeter
