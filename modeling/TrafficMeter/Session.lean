/-
Module: TrafficMeter.Session
Purpose: Sessions whose traffic is reported: who they are, which traffic is theirs, and their form
  as data.
Main exports: SessionKey, SessionKey.text, StreamPort, Session, Session.key, Session.acceptsIp,
  Session.acceptsPort, Session.ofValue?, Session.value
-/
import TrafficMeter.Data.Value
import TrafficMeter.Net.IpAddress.Reader
import TrafficMeter.Timestamp

namespace TrafficMeter

open Data Net

/-- What tells one session from another: the workload and the machine that it runs in. -/
structure SessionKey where
  instanceId : String
  vmId : Int64
deriving DecidableEq, Repr, Inhabited

/-- The text of a key: both parts with a hyphen between them. -/
def SessionKey.text (key : SessionKey) : String :=
  String.ofList (key.instanceId.toList ++ '-' :: Text.signedDecimal key.vmId.toInt)

/-- The order of keys: by workload, then by machine. -/
def SessionKey.atMost (left right : SessionKey) : Bool :=
  left.instanceId < right.instanceId ||
    (left.instanceId == right.instanceId && left.vmId ≤ right.vmId)

structure StreamPort where
  name : String := ""
  protocolType : String := ""
  port : UInt16
deriving DecidableEq, Repr, Inhabited

/-- A session.  Without a stream address every remote address is its own, and without stream ports
every port. -/
structure Session where
  instanceId : String
  vmId : Int64
  flowId : String := ""
  bizId : Int64 := 0
  gid : Int64 := 0
  areaType : Int32 := 0
  idc : String := ""
  streamIp : Option IpAddress := none
  streamPorts : List StreamPort := []
  startTime : Timestamp
deriving DecidableEq, Repr, Inhabited

namespace Session

def key (session : Session) : SessionKey :=
  { instanceId := session.instanceId, vmId := session.vmId }

/-- Whether traffic on a port is the session's. -/
def acceptsPort (session : Session) (port : UInt16) : Bool :=
  session.streamPorts.isEmpty || session.streamPorts.any (·.port == port)

/-- Whether traffic with an address is the session's. -/
def acceptsIp (session : Session) (ip : IpAddress) : Bool :=
  session.streamIp.all (· == ip)

end Session

/-! ### As data -/

def SessionKey.ofValue? (value : Value) : Option SessionKey := do
  let fields ← value.fields? ["instance_id", "vm_id"] false
  return {
    instanceId := ← fields.need "instance_id" Value.text?
    vmId := ← fields.need "vm_id" Value.int64? }

def SessionKey.value (key : SessionKey) : Value :=
  .ofMembers [("instance_id", .ofText key.instanceId), ("vm_id", .ofInt key.vmId.toInt)]

def StreamPort.ofValue? (value : Value) : Option StreamPort := do
  let fields ← value.fields? ["name", "protocol_type", "port"] false
  return {
    name := ← fields.orElse "name" "" Value.text?
    protocolType := ← fields.orElse "protocol_type" "" Value.text?
    port := ← fields.need "port" Value.uint16? }

def StreamPort.value (port : StreamPort) : Value :=
  .ofMembers [("name", .ofText port.name), ("protocol_type", .ofText port.protocolType),
    ("port", .ofNat port.port.toNat)]

namespace Session

/-- The address that a value describes; null stands for none. -/
def streamIp? : Value → Option (Option IpAddress)
  | .null => some none
  | value => (value.text?.bind IpAddress.read?).map some

def fieldNames : List String :=
  ["instance_id", "vm_id", "flow_id", "biz_id", "gid", "area_type", "idc", "stream_ip",
    "stream_ports", "start_time"]

/-- The session that a value describes.  Only the parts of its key must be there; a session without
a start time starts at the given one. -/
def ofValue? (now : Timestamp) (value : Value) : Option Session := do
  let fields ← value.fields? fieldNames false
  return {
    instanceId := ← fields.need "instance_id" Value.text?
    vmId := ← fields.need "vm_id" Value.int64?
    flowId := ← fields.orElse "flow_id" "" Value.text?
    bizId := ← fields.orElse "biz_id" 0 Value.int64?
    gid := ← fields.orElse "gid" 0 Value.int64?
    areaType := ← fields.orElse "area_type" 0 Value.int32?
    idc := ← fields.orElse "idc" "" Value.text?
    streamIp := ← fields.orElse "stream_ip" none streamIp?
    streamPorts := ← fields.orElse "stream_ports" [] (Value.each? StreamPort.ofValue?)
    startTime := ← fields.orElse "start_time" now fun value => value.text?.bind Timestamp.read? }

def value (session : Session) : Value :=
  .ofMembers [
    ("instance_id", .ofText session.instanceId),
    ("vm_id", .ofInt session.vmId.toInt),
    ("flow_id", .ofText session.flowId),
    ("biz_id", .ofInt session.bizId.toInt),
    ("gid", .ofInt session.gid.toInt),
    ("area_type", .ofInt session.areaType.toInt),
    ("idc", .ofText session.idc),
    ("stream_ip", match session.streamIp with
      | some ip => .ofText ip.text
      | none => .null),
    ("stream_ports", .list (session.streamPorts.map StreamPort.value)),
    ("start_time", .ofText session.startTime.text)]

end Session

end TrafficMeter
