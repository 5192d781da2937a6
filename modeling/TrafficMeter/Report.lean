/-
Module: TrafficMeter.Report
Purpose: Reports of what a session used in one window of time, and the bytes that they are
  delivered as.
Main exports: SessionUsage, Report, Report.create, Report.value, Report.ofValue?
-/
import TrafficMeter.Data.Json.Printer
import TrafficMeter.Data.Json.Reader
import TrafficMeter.Session
import TrafficMeter.Spool.Record
import TrafficMeter.Usage.Sample
import TrafficMeter.Uuid

namespace TrafficMeter

open Data Spool Usage

/-- What a session used: with its stream address on any port, and on its stream ports. -/
structure SessionUsage where
  total : Totals
  stream : Totals
deriving DecidableEq, Repr, Inhabited

structure Report where
  /-- tells a report that is delivered twice from another one -/
  reportId : Uuid
  sessionKey : String
  instanceId : String
  vmId : Int64
  flowId : String
  bizId : Int64
  gid : Int64
  areaType : Int32
  idc : String
  windowStart : Int64
  windowEnd : Int64
  totalUp : UInt64
  totalDown : UInt64
  streamUp : UInt64
  streamDown : UInt64
  sequence : UInt32
deriving DecidableEq, Repr, Inhabited

namespace Report

/-- The report of a session's usage in a window. -/
def create (id : Uuid) (session : Session) (windowStart windowEnd : Int64) (usage : SessionUsage)
    (sequence : UInt32) : Report where
  reportId := id
  sessionKey := session.key.text
  instanceId := session.instanceId
  vmId := session.vmId
  flowId := session.flowId
  bizId := session.bizId
  gid := session.gid
  areaType := session.areaType
  idc := session.idc
  windowStart
  windowEnd
  totalUp := usage.total.up
  totalDown := usage.total.down
  streamUp := usage.stream.up
  streamDown := usage.stream.down
  sequence

def fieldNames : List String :=
  ["report_id", "session_key", "instance_id", "vm_id", "flow_id", "biz_id", "gid", "area_type",
    "idc", "window_start", "window_end", "total_up_bytes", "total_down_bytes", "stream_up_bytes",
    "stream_down_bytes", "sequence"]

def value (report : Report) : Value :=
  .ofMembers [
    ("report_id", .ofText report.reportId.text),
    ("session_key", .ofText report.sessionKey),
    ("instance_id", .ofText report.instanceId),
    ("vm_id", .ofInt report.vmId.toInt),
    ("flow_id", .ofText report.flowId),
    ("biz_id", .ofInt report.bizId.toInt),
    ("gid", .ofInt report.gid.toInt),
    ("area_type", .ofInt report.areaType.toInt),
    ("idc", .ofText report.idc),
    ("window_start", .ofInt report.windowStart.toInt),
    ("window_end", .ofInt report.windowEnd.toInt),
    ("total_up_bytes", .ofNat report.totalUp.toNat),
    ("total_down_bytes", .ofNat report.totalDown.toNat),
    ("stream_up_bytes", .ofNat report.streamUp.toNat),
    ("stream_down_bytes", .ofNat report.streamDown.toNat),
    ("sequence", .ofNat report.sequence.toNat)]

/-- The report that a value describes; no field may be left out. -/
def ofValue? (value : Value) : Option Report := do
  let fields ← value.fields? fieldNames false
  return {
    reportId := ← fields.need "report_id" fun value => value.text?.bind Uuid.read?
    sessionKey := ← fields.need "session_key" Value.text?
    instanceId := ← fields.need "instance_id" Value.text?
    vmId := ← fields.need "vm_id" Value.int64?
    flowId := ← fields.need "flow_id" Value.text?
    bizId := ← fields.need "biz_id" Value.int64?
    gid := ← fields.need "gid" Value.int64?
    areaType := ← fields.need "area_type" Value.int32?
    idc := ← fields.need "idc" Value.text?
    windowStart := ← fields.need "window_start" Value.int64?
    windowEnd := ← fields.need "window_end" Value.int64?
    totalUp := ← fields.need "total_up_bytes" Value.uint64?
    totalDown := ← fields.need "total_down_bytes" Value.uint64?
    streamUp := ← fields.need "stream_up_bytes" Value.uint64?
    streamDown := ← fields.need "stream_down_bytes" Value.uint64?
    sequence := ← fields.need "sequence" Value.uint32? }

end Report

/-- Reports are kept and delivered as compact JSON. -/
instance : Record Report where
  encode report := .ok (Bytes.ofText (Json.write report.value))
  decode bytes :=
    match (Json.ofBytes? bytes).bind Report.ofValue? with
    | some report => .ok report
    | none => .error (.decodeFailed "the bytes are no report")

end TrafficMeter
