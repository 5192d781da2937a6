/-
Module: TrafficMeter.Proofs.FramePositions
Purpose: Frames decoded by position.  `Flow.ofFrameAt` reads octets, words and slices at places that
  it computes, in the order in which lengths are checked, and a place outside of the bytes is an
  error.  There is no such error, because it reads what `Flow.ofFrame?` reads; each decoder has an
  equation that says so for all bytes.
Main exports: Flow.ofFrameAt, Flow.ofFrameAt_eq, frames_decoded_exactly
-/
import TrafficMeter.Proofs.FrameLayout

namespace TrafficMeter

namespace Bytes

/-- The octet at a place.  A place outside is an error, and the place is told. -/
def octetAt (bytes : Bytes) (place : Nat) : Except Nat UInt8 :=
  match bytes[place]? with
  | some octet => .ok octet
  | none => .error place

/-- The word at a place, most significant octet first. -/
def wordAt (bytes : Bytes) (place : Nat) : Except Nat UInt16 := do
  return word16 (← octetAt bytes place) (← octetAt bytes (place + 1))

/-- The bytes from a place on, which may be the end. -/
def dropAt (bytes : Bytes) (place : Nat) : Except Nat Bytes :=
  if place ≤ bytes.length then .ok (bytes.drop place) else .error place

/-- A position inside the bytes is never out of bounds. -/
theorem dropAt_of_le {bytes : Bytes} {place : Nat} (inside : place ≤ bytes.length) :
    dropAt bytes place = .ok (bytes.drop place) :=
  if_pos inside

end Bytes

namespace Net

open Bytes

/-! ### The decoders, by position -/

/-- The hardware address at a place. -/
def hardwareAt (bytes : Bytes) (place : Nat) : Except Nat HardwareAddress := do
  return .ofOctets (← octetAt bytes place) (← octetAt bytes (place + 1))
    (← octetAt bytes (place + 2)) (← octetAt bytes (place + 3)) (← octetAt bytes (place + 4))
    (← octetAt bytes (place + 5))

/-- The version 4 address at a place. -/
def quadAt (bytes : Bytes) (place : Nat) : Except Nat IpAddress := do
  return .v4 (IpAddress.quad (← octetAt bytes place) (← octetAt bytes (place + 1))
    (← octetAt bytes (place + 2)) (← octetAt bytes (place + 3)))

/-- The version 6 address at a place. -/
def groupsAt (bytes : Bytes) (place : Nat) : Except Nat IpAddress := do
  return .ofGroups (← wordAt bytes place) (← wordAt bytes (place + 2))
    (← wordAt bytes (place + 4)) (← wordAt bytes (place + 6)) (← wordAt bytes (place + 8))
    (← wordAt bytes (place + 10)) (← wordAt bytes (place + 12)) (← wordAt bytes (place + 14))

/-- Decode a version 4 header. -/
def Packet.ofIpv4At (bytes : Bytes) : Except Nat (Option Packet) := do
  if bytes.length < 20 then return none
  let first ← octetAt bytes 0
  if first >>> 4 ≠ 4 then return none
  let headerLength := (first &&& 0x0f).toNat * 4
  if headerLength < 20 ∨ bytes.length < headerLength then return none
  if (← wordAt bytes 6) &&& 0x1fff ≠ 0 then return none
  let protocol ← octetAt bytes 9
  let source ← quadAt bytes 12
  let target ← quadAt bytes 16
  let payload ← dropAt bytes headerLength
  return some { source, target, protocol, payload }

/-- Decode a version 6 header. -/
def Packet.ofIpv6At (bytes : Bytes) : Except Nat (Option Packet) := do
  if bytes.length < 40 then return none
  if (← octetAt bytes 0) >>> 4 ≠ 6 then return none
  let protocol ← octetAt bytes 6
  let source ← groupsAt bytes 8
  let target ← groupsAt bytes 24
  let payload ← dropAt bytes 40
  return some { source, target, protocol, payload }

/-- Decode the packet of a frame with the given type. -/
def Packet.ofEtherAt (etherType : UInt16) (bytes : Bytes) : Except Nat (Option Packet) :=
  if etherType = etherIpv4 then Packet.ofIpv4At bytes
  else if etherType = etherIpv6 then Packet.ofIpv6At bytes
  else .ok none

/-- The two ports in front of a transport header that is there in full. -/
def Transport.portsAt (transport : Transport) (bytes : Bytes) :
    Except Nat (Option (UInt16 × UInt16)) := do
  if bytes.length < transport.headerLength then return none
  return some (← wordAt bytes 0, ← wordAt bytes 2)

/-- The frame type and the place of the packet, behind at most one VLAN tag. -/
def skipTagAt (frame : Bytes) : Except Nat (Option (UInt16 × Nat)) := do
  let outer ← wordAt frame 12
  if outer ≠ etherVlan then return some (outer, 14)
  if frame.length < 18 then return none
  return some (← wordAt frame 16, 18)

/-- Decode a frame. -/
def Flow.ofFrameAt (frame : Bytes) : Except Nat (Option Flow) := do
  if frame.length < 14 then return none
  let targetHardware ← hardwareAt frame 0
  let sourceHardware ← hardwareAt frame 6
  let some (etherType, place) ← skipTagAt frame | return none
  let some packet ← Packet.ofEtherAt etherType (← dropAt frame place) | return none
  let some transport := Transport.ofProtocol? packet.protocol | return none
  let some (sourcePort, targetPort) ← transport.portsAt packet.payload | return none
  return some {
    sourceHardware, targetHardware, transport, sourcePort, targetPort
    source := packet.source
    target := packet.target }

/-! ### No place is outside -/

/-- Reading a version 4 header by position never leaves the bytes, and finds what reading it from
the front finds. -/
theorem Packet.ofIpv4At_eq (bytes : Bytes) : ofIpv4At bytes = .ok (ofIpv4? bytes) := by
  by_cases short : bytes.length < 20
  · rw [ofIpv4At, if_pos short, ofIpv4?_of_short short]
    rfl
  rw [ofIpv4At, if_neg short]
  obtain ⟨octets, rest, rfl⟩ := exists_front (Nat.not_lt.mp short)
  let headerLength := (octets 0 &&& 0x0f).toNat * 4
  let payload := (List.ofFn octets ++ rest).drop headerLength
  -- All reads but that of the payload are inside of the first twenty octets.
  show (if octets 0 >>> 4 ≠ 4 then Except.ok none
    else if headerLength < 20 ∨ (List.ofFn octets ++ rest).length < headerLength then .ok none
    else if word16 (octets 6) (octets 7) &&& 0x1fff ≠ 0 then .ok none
    else dropAt (List.ofFn octets ++ rest) headerLength >>= fun payload =>
      .ok (some (Packet.mk _ _ (octets 9) payload))) =
    .ok (if octets 0 >>> 4 = 4 ∧ 20 ≤ headerLength ∧
        headerLength ≤ (List.ofFn octets ++ rest).length ∧
        word16 (octets 6) (octets 7) &&& 0x1fff = 0 then
      some (Packet.mk _ _ (octets 9) payload) else none)
  by_cases version : octets 0 >>> 4 = 4
  case neg => rw [if_pos version, if_neg fun whole => version whole.1]
  by_cases room : 20 ≤ headerLength ∧ headerLength ≤ (List.ofFn octets ++ rest).length
  case neg =>
    rw [if_neg (not_not.mpr version), if_pos (by omega),
      if_neg fun whole => room ⟨whole.2.1, whole.2.2.1⟩]
  by_cases offset : word16 (octets 6) (octets 7) &&& 0x1fff = 0
  case neg =>
    rw [if_neg (not_not.mpr version), if_neg (by omega), if_pos offset,
      if_neg fun whole => offset whole.2.2.2]
  rw [if_neg (not_not.mpr version), if_neg (by omega), if_neg (not_not.mpr offset),
    dropAt_of_le room.2, if_pos ⟨version, room.1, room.2, offset⟩]
  rfl

/-- Nor does reading a version 6 header. -/
theorem Packet.ofIpv6At_eq (bytes : Bytes) : ofIpv6At bytes = .ok (ofIpv6? bytes) := by
  by_cases short : bytes.length < 40
  · rw [ofIpv6At, if_pos short, ofIpv6?_of_short short]
    rfl
  rw [ofIpv6At, if_neg short]
  obtain ⟨octets, rest, rfl⟩ := exists_front (Nat.not_lt.mp short)
  show (if octets 0 >>> 4 ≠ 6 then Except.ok none
    else .ok (some (Packet.mk _ _ (octets 6) rest))) =
    .ok (if octets 0 >>> 4 = 6 then some (Packet.mk _ _ (octets 6) rest) else none)
  by_cases version : octets 0 >>> 4 = 6
  · rw [if_neg (not_not.mpr version), if_pos version]
  · rw [if_pos version, if_neg version]

theorem Packet.ofEtherAt_eq (etherType : UInt16) (bytes : Bytes) :
    ofEtherAt etherType bytes = .ok (ofEther? etherType bytes) := by
  unfold ofEtherAt ofEther?
  split
  · exact ofIpv4At_eq bytes
  · split
    · exact ofIpv6At_eq bytes
    · rfl

/-- Nor does reading ports. -/
theorem Transport.portsAt_eq (transport : Transport) (bytes : Bytes) :
    transport.portsAt bytes = .ok (transport.ports? bytes) := by
  by_cases short : bytes.length < transport.headerLength
  · rw [portsAt, if_pos short, ports?_of_short short]
    rfl
  have four : 4 ≤ transport.headerLength := by cases transport <;> decide
  rw [portsAt, if_neg short]
  obtain ⟨octets, rest, rfl⟩ := exists_front (four.trans (Nat.not_lt.mp short))
  show Except.ok (some (word16 (octets 0) (octets 1), word16 (octets 2) (octets 3))) =
    .ok (if transport.headerLength ≤ (List.ofFn octets ++ rest).length then
      some (word16 (octets 0) (octets 1), word16 (octets 2) (octets 3)) else none)
  rw [if_pos (Nat.not_lt.mp short)]

/-- The packet stands at a place inside of the frame, or at none. -/
theorem skipTagAt_octets (target source : HardwareAddress) (outer : UInt16) (rest : Bytes) :
    let frame := target.toList ++ source.toList ++ ofWord16 outer ++ rest
    (skipTagAt frame = .ok none ∧ skipTag? outer rest = none) ∨
      ∃ etherType place, skipTagAt frame = .ok (some (etherType, place)) ∧
        place ≤ frame.length ∧ skipTag? outer rest = some (etherType, frame.drop place) := by
  intro frame
  obtain ⟨t0, t1, t2, t3, t4, t5, rfl⟩ := target.exists_octets
  obtain ⟨s0, s1, s2, s3, s4, s5, rfl⟩ := source.exists_octets
  have outerAt : wordAt frame 12 = .ok outer := congrArg Except.ok (word16_ofWord16 outer)
  have length : frame.length = 14 + rest.length := Nat.add_comm rest.length 14
  rw [skipTagAt, outerAt]
  by_cases tagged : outer = etherVlan
  case neg => exact .inr ⟨outer, 14, if_pos tagged, by omega, if_neg tagged⟩
  cases tagged
  by_cases short : rest.length < 4
  case pos => exact .inl ⟨if_pos (by omega : frame.length < 18), skipTag?_of_short short⟩
  obtain ⟨octets, inner, rfl⟩ := exists_front (Nat.not_lt.mp short)
  refine .inr ⟨word16 (octets 2) (octets 3), 18, ?_, by omega, rfl⟩
  show (if frame.length < 18 then Except.ok none
    else .ok (some (word16 (octets 2) (octets 3), 18))) = _
  rw [if_neg (by omega)]

/-- A whole frame by position, with at most one tag skipped. -/
theorem Flow.ofFrameAt_eq (frame : Bytes) : ofFrameAt frame = .ok (ofFrame? frame) := by
  by_cases short : frame.length < 14
  · rw [ofFrameAt, if_pos short, ofFrame?_of_short (by omega)]
    rfl
  rw [ofFrameAt, if_neg short]
  obtain ⟨target, source, outer, rest, whole⟩ := exists_octets (Nat.not_lt.mp short)
  have targetAt : hardwareAt frame 0 = .ok target := by
    obtain ⟨t0, t1, t2, t3, t4, t5, rfl⟩ := target.exists_octets
    rw [← whole]
    rfl
  have sourceAt : hardwareAt frame 6 = .ok source := by
    obtain ⟨t0, t1, t2, t3, t4, t5, rfl⟩ := target.exists_octets
    obtain ⟨s0, s1, s2, s3, s4, s5, rfl⟩ := source.exists_octets
    rw [← whole]
    rfl
  have tag := skipTagAt_octets target source outer rest
  rw [targetAt, sourceAt, ← whole, ofFrame?_octets, whole]
  rw [whole] at tag
  rcases tag with ⟨nowhere, refused⟩ | ⟨etherType, place, there, inside, skipped⟩
  · rw [nowhere, refused]
    rfl
  rw [there, skipped]
  dsimp only [bind, Except.bind, Option.bind]
  simp only [dropAt_of_le inside, Packet.ofEtherAt_eq, Transport.portsAt_eq]
  cases Packet.ofEther? etherType (frame.drop place) with
  | none => rfl
  | some packet =>
      dsimp only
      cases Transport.ofProtocol? packet.protocol with
      | none => rfl
      | some transport =>
          dsimp only
          cases transport.ports? packet.payload with
          | none => rfl
          | some ports => rfl

/-! ### The frames that are decoded -/

/-- A byte string is decoded just if it is the frame of a layout, and to the flow of the layout, so
that every frame that is built from a layout decodes to what it was built from.  All places that are
read are inside of the frame.  Bytes behind a frame that is decoded change nothing, nor does a VLAN
tag in a frame that has none; a second tag is refused. -/
theorem frames_decoded_exactly :
    (∀ frame flow, Flow.ofFrame? frame = some flow ↔
        ∃ layout : FrameLayout, layout.bytes = frame ∧ layout.flow = flow) ∧
      (∀ frame, Flow.ofFrameAt frame = .ok (Flow.ofFrame? frame)) ∧
      (∀ frame flow more, Flow.ofFrame? frame = some flow →
        Flow.ofFrame? (frame ++ more) = some flow) ∧
      ∀ control frame, Flow.ofFrame? (insertTag control frame) =
        if HasTag frame then none else Flow.ofFrame? frame :=
  ⟨fun _ _ => Flow.ofFrame?_eq_some_iff, Flow.ofFrameAt_eq,
    fun _ _ more read => Flow.ofFrame?_append read more, Flow.ofFrame?_insertTag⟩

end Net

end TrafficMeter
