/-
Module: TrafficMeter.Net.Frame
Purpose: Decode a captured Ethernet frame down to its transport ports.
Main exports: Transport, Flow, Flow.ofFrame?
-/
import TrafficMeter.Bytes
import TrafficMeter.Net.HardwareAddress
import TrafficMeter.Net.IpAddress

namespace TrafficMeter.Net

/-- The two transport protocols whose ports are read. -/
inductive Transport where
  | tcp
  | udp
deriving DecidableEq, Repr, Inhabited

/-- The number of a transport protocol in an internet header. -/
def Transport.protocol : Transport → UInt8
  | .tcp => 6
  | .udp => 17

/-- The transport protocol with a given number. -/
def Transport.ofProtocol? : UInt8 → Option Transport
  | 6 => some .tcp
  | 17 => some .udp
  | _ => none

/-- The length of the shortest header of a transport protocol. -/
def Transport.headerLength : Transport → Nat
  | .tcp => 20
  | .udp => 8

/-- Who sends to whom in one frame: hardware addresses, internet addresses and ports. -/
structure Flow where
  sourceHardware : HardwareAddress
  targetHardware : HardwareAddress
  source : IpAddress
  target : IpAddress
  transport : Transport
  sourcePort : UInt16
  targetPort : UInt16
deriving DecidableEq, Repr

/-- What an internet header says, and the bytes behind it. -/
structure Packet where
  source : IpAddress
  target : IpAddress
  protocol : UInt8
  payload : Bytes
deriving DecidableEq, Repr

/-- The type of a frame that carries version 4. -/
def etherIpv4 : UInt16 := 0x0800

/-- The type of a frame that carries version 6. -/
def etherIpv6 : UInt16 := 0x86DD

/-- The type that announces a VLAN tag. -/
def etherVlan : UInt16 := 0x8100

/-- Decode a version 4 header of five to fifteen words that belongs to a first or only fragment;
the payload starts behind its options. -/
def Packet.ofIpv4? (bytes : Bytes) : Option Packet :=
  match bytes with
  | versionAndLength :: _ :: _ :: _ :: _ :: _ :: fragmentHigh :: fragmentLow :: _ :: protocol ::
      _ :: _ :: s0 :: s1 :: s2 :: s3 :: t0 :: t1 :: t2 :: t3 :: _ =>
      let headerLength := (versionAndLength &&& 0x0f).toNat * 4
      if versionAndLength >>> 4 = 4 ∧ 20 ≤ headerLength ∧ headerLength ≤ bytes.length ∧
          Bytes.word16 fragmentHigh fragmentLow &&& 0x1fff = 0 then
        some {
          source := .v4 (IpAddress.quad s0 s1 s2 s3)
          target := .v4 (IpAddress.quad t0 t1 t2 t3)
          protocol
          payload := bytes.drop headerLength }
      else none
  | _ => none

/-- Read sixteen octets as a version 6 address. -/
def readIpv6? : Bytes → Option (IpAddress × Bytes)
  | a0 :: a1 :: b0 :: b1 :: c0 :: c1 :: d0 :: d1 :: e0 :: e1 :: f0 :: f1 :: g0 :: g1 :: h0 :: h1 ::
      rest =>
      let word := Bytes.word16
      some (.ofGroups (word a0 a1) (word b0 b1) (word c0 c1) (word d0 d1) (word e0 e1) (word f0 f1)
        (word g0 g1) (word h0 h1), rest)
  | _ => none

/-- Decode a version 6 header, which is forty bytes long. -/
def Packet.ofIpv6? (bytes : Bytes) : Option Packet :=
  match bytes with
  | version :: _ :: _ :: _ :: _ :: _ :: protocol :: _ :: addresses =>
      if version >>> 4 = 6 then do
        let (source, rest) ← readIpv6? addresses
        let (target, payload) ← readIpv6? rest
        return { source, target, protocol, payload }
      else none
  | _ => none

/-- Decode the packet of a frame with the given type. -/
def Packet.ofEther? (etherType : UInt16) (bytes : Bytes) : Option Packet :=
  if etherType = etherIpv4 then Packet.ofIpv4? bytes
  else if etherType = etherIpv6 then Packet.ofIpv6? bytes
  else none

/-- The two ports in front of a transport header that is there in full. -/
def Transport.ports? (transport : Transport) (bytes : Bytes) : Option (UInt16 × UInt16) :=
  match bytes with
  | s0 :: s1 :: t0 :: t1 :: _ =>
      if transport.headerLength ≤ bytes.length then
        some (Bytes.word16 s0 s1, Bytes.word16 t0 t1)
      else none
  | _ => none

/-- The frame type and the packet behind at most one VLAN tag. -/
def skipTag? (etherType : UInt16) (bytes : Bytes) : Option (UInt16 × Bytes) :=
  if etherType = etherVlan then
    match bytes with
    | _ :: _ :: high :: low :: rest => some (Bytes.word16 high low, rest)
    | _ => none
  else some (etherType, bytes)

/-- Decode a frame: an Ethernet header, at most one VLAN tag, an internet header of either
version and the ports of a transport header.  Any other byte string is no flow. -/
def Flow.ofFrame? (frame : Bytes) : Option Flow :=
  match frame with
  | t0 :: t1 :: t2 :: t3 :: t4 :: t5 :: s0 :: s1 :: s2 :: s3 :: s4 :: s5 ::
      high :: low :: rest => do
      let (etherType, bytes) ← skipTag? (Bytes.word16 high low) rest
      let packet ← Packet.ofEther? etherType bytes
      let transport ← Transport.ofProtocol? packet.protocol
      let (sourcePort, targetPort) ← transport.ports? packet.payload
      return {
        sourceHardware := .ofOctets s0 s1 s2 s3 s4 s5
        targetHardware := .ofOctets t0 t1 t2 t3 t4 t5
        source := packet.source
        target := packet.target
        transport, sourcePort, targetPort }
  | _ => none

end TrafficMeter.Net
