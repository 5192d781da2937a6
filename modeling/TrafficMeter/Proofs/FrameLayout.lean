/-
Module: TrafficMeter.Proofs.FrameLayout
Purpose: The frames that are decoded, as data.  `FrameLayout` has a field for every part of such a
  frame, what is skipped included, and carries its well-formedness; `FrameLayout.bytes` writes the
  frame and `FrameLayout.flow` says who sends to whom.  Decoding accepts the frames that are written
  from a layout and no others, and reads the flow of the layout; each decoder has its own inversion
  lemma, over the part of the layout that it reads.
Main exports: Ipv4Header, Ipv6Header, InternetHeader, FrameLayout, Packet.ofEther?_eq_some_iff,
  Flow.ofFrame?_eq_some_iff, Flow.ofFrame?_insertTag
-/
import Mathlib.Data.Nat.Bitwise
import Mathlib.Tactic.IntervalCases
import TrafficMeter.Net.Frame

namespace TrafficMeter.Net

/-! ### Half octets and the fragment word -/

/-- The octet of two numbers below sixteen, the high half first. -/
def ofHalves (high : UInt8) (low : Nat) : UInt8 :=
  UInt8.ofNat (16 * high.toNat + low)

/-- The upper half of an octet. -/
theorem toNat_shiftRight_four (octet : UInt8) : (octet >>> 4).toNat = octet.toNat / 16 := by
  rw [UInt8.toNat_shiftRight, Nat.shiftRight_eq_div_pow]
  rfl

/-- The lower half of an octet. -/
theorem toNat_and_half (octet : UInt8) : (octet &&& 0x0f).toNat = octet.toNat % 16 := by
  rw [UInt8.toNat_and]
  exact Nat.and_two_pow_sub_one_eq_mod octet.toNat 4

theorem toNat_half_lt (octet : UInt8) : (octet &&& 0x0f).toNat < 16 := by
  rw [toNat_and_half]
  exact Nat.mod_lt _ (by decide)

/-- An octet comes apart into its halves in one way. -/
theorem ofHalves_eq_iff {octet : UInt8} (high : UInt8) {low : Nat} (high_lt : high.toNat < 16)
    (low_lt : low < 16) :
    ofHalves high low = octet ↔ octet >>> 4 = high ∧ (octet &&& 0x0f).toNat = low := by
  have octet_lt := octet.toNat_lt
  rw [← UInt8.toNat_inj, ← UInt8.toNat_inj, toNat_shiftRight_four, toNat_and_half, ofHalves,
    UInt8.toNat_ofNat']
  omega

/-- The word with three flags and a fragment offset of zero. -/
def fragmentWord (flags : Fin 8) : UInt16 :=
  UInt16.ofNat (8192 * flags)

/-- A fragment offset of zero leaves the flags alone. -/
theorem fragmentOffset_eq_zero_iff {word : UInt16} :
    word &&& 0x1fff = 0 ↔ ∃ flags, fragmentWord flags = word := by
  have word_lt := word.toNat_lt
  have low : (word &&& 0x1fff).toNat = word.toNat % 8192 := by
    rw [UInt16.toNat_and]
    exact Nat.and_two_pow_sub_one_eq_mod word.toNat 13
  have zero : (0 : UInt16).toNat = 0 := rfl
  rw [← UInt16.toNat_inj, low, zero]
  constructor
  · intro offset
    refine ⟨⟨word.toNat / 8192, by omega⟩, ?_⟩
    apply UInt16.toNat_inj.mp
    simp only [fragmentWord, UInt16.toNat_ofNat']
    omega
  · rintro ⟨flags, rfl⟩
    simp only [fragmentWord, UInt16.toNat_ofNat']
    omega

/-! ### Addresses and their octets -/

/-- An address is six octets, one by one. -/
theorem HardwareAddress.exists_octets (address : HardwareAddress) :
    ∃ a b c d e f, address = .ofOctets a b c d e f := by
  obtain ⟨octets⟩ := address
  refine ⟨octets[0], octets[1], octets[2], octets[3], octets[4], octets[5], ?_⟩
  apply congrArg HardwareAddress.mk
  apply Vector.ext
  intro place inside
  interval_cases place <;> rfl

/-- A version 4 address is four octets, one by one. -/
theorem IpAddress.exists_quad (octets : Vector UInt8 4) : ∃ a b c d, octets = quad a b c d := by
  refine ⟨octets[0], octets[1], octets[2], octets[3], ?_⟩
  apply Vector.ext
  intro place inside
  interval_cases place <;> rfl

/-- A version 6 address is eight groups, one by one. -/
theorem IpAddress.exists_groups (groups : Vector UInt16 8) :
    ∃ a b c d e f g h, .v6 groups = ofGroups a b c d e f g h := by
  refine ⟨groups[0], groups[1], groups[2], groups[3], groups[4], groups[5], groups[6], groups[7],
    ?_⟩
  apply congrArg IpAddress.v6
  apply Vector.ext
  intro place inside
  interval_cases place <;> rfl

/-- The sixteen octets of eight groups. -/
def groupOctets (groups : Vector UInt16 8) : Bytes :=
  groups.toList.flatMap Bytes.ofWord16

@[simp] theorem length_groupOctets (groups : Vector UInt16 8) : (groupOctets groups).length = 16 := by
  obtain ⟨a, b, c, d, e, f, g, h, same⟩ := IpAddress.exists_groups groups
  cases same
  rfl

/-- Sixteen octets are read as the address that they were written from. -/
@[simp] theorem readIpv6?_groupOctets (groups : Vector UInt16 8) (rest : Bytes) :
    readIpv6? (groupOctets groups ++ rest) = some (.v6 groups, rest) := by
  obtain ⟨a, b, c, d, e, f, g, h, same⟩ := IpAddress.exists_groups groups
  cases same
  simp [groupOctets, Bytes.ofWord16, readIpv6?, IpAddress.ofGroups]

/-- An address is read exactly where its sixteen octets stand. -/
theorem readIpv6?_eq_some_iff {bytes rest : Bytes} {address : IpAddress} :
    readIpv6? bytes = some (address, rest) ↔
      ∃ groups, groupOctets groups ++ rest = bytes ∧ .v6 groups = address := by
  constructor
  · intro read
    unfold readIpv6? at read
    split at read
    · cases read
      refine ⟨_, ?_, rfl⟩
      simp [groupOctets]
    · cases read
  · rintro ⟨groups, rfl, rfl⟩
    exact readIpv6?_groupOctets groups rest

/-! ### Internet headers -/

/-- A version 4 header of a first or only fragment, with its options.  The protocol is left out. -/
structure Ipv4Header where
  service : UInt8
  totalLength : UInt16
  identification : UInt16
  flags : Fin 8
  timeToLive : UInt8
  checksum : UInt16
  source : Vector UInt8 4
  target : Vector UInt8 4
  options : Bytes
  /-- options are words of four octets -/
  options_words : 4 ∣ options.length
  /-- with the options a header has at most fifteen words -/
  options_short : options.length ≤ 40

/-- The octets of a version 4 header that announces a protocol. -/
def Ipv4Header.bytes (header : Ipv4Header) (protocol : UInt8) : Bytes :=
  [ofHalves 4 (5 + header.options.length / 4), header.service] ++
    Bytes.ofWord16 header.totalLength ++ Bytes.ofWord16 header.identification ++
    Bytes.ofWord16 (fragmentWord header.flags) ++ [header.timeToLive, protocol] ++
    Bytes.ofWord16 header.checksum ++ header.source.toList ++ header.target.toList ++
    header.options

/-- The fixed part of a version 4 header takes twenty octets, and the options follow. -/
theorem Ipv4Header.length_bytes (header : Ipv4Header) (protocol : UInt8) :
    (header.bytes protocol).length = 20 + header.options.length := by
  simp only [bytes, Bytes.ofWord16, List.length_append, List.length_cons, List.length_nil,
    Vector.length_toList]

/-- A version 6 header.  The protocol is left out. -/
structure Ipv6Header where
  trafficHigh : Fin 16
  trafficLow : UInt8
  flow : UInt16
  payloadLength : UInt16
  hopLimit : UInt8
  source : Vector UInt16 8
  target : Vector UInt16 8

/-- The octets of a version 6 header that announces a protocol. -/
def Ipv6Header.bytes (header : Ipv6Header) (protocol : UInt8) : Bytes :=
  [ofHalves 6 header.trafficHigh, header.trafficLow] ++ Bytes.ofWord16 header.flow ++
    Bytes.ofWord16 header.payloadLength ++ [protocol, header.hopLimit] ++
    groupOctets header.source ++ groupOctets header.target

theorem Ipv6Header.length_bytes (header : Ipv6Header) (protocol : UInt8) :
    (header.bytes protocol).length = 40 := by
  simp only [bytes, Bytes.ofWord16, List.length_append, List.length_cons, List.length_nil,
    length_groupOctets]

/-- A header of either version. -/
inductive InternetHeader where
  | v4 (header : Ipv4Header)
  | v6 (header : Ipv6Header)

namespace InternetHeader

/-- The type that announces the header. -/
def etherType : InternetHeader → UInt16
  | v4 _ => 0x0800
  | v6 _ => 0x86DD

def bytes : InternetHeader → UInt8 → Bytes
  | v4 header => header.bytes
  | v6 header => header.bytes

def source : InternetHeader → IpAddress
  | v4 header => .v4 header.source
  | v6 header => .v6 header.source

def target : InternetHeader → IpAddress
  | v4 header => .v4 header.target
  | v6 header => .v6 header.target

end InternetHeader

/-- A version 4 header is read back with its addresses, its protocol and what stands behind its
options. -/
theorem Packet.ofIpv4?_bytes (header : Ipv4Header) (protocol : UInt8) (payload : Bytes) :
    Packet.ofIpv4? (header.bytes protocol ++ payload) =
      some ⟨.v4 header.source, .v4 header.target, protocol, payload⟩ := by
  obtain ⟨s0, s1, s2, s3, source⟩ := IpAddress.exists_quad header.source
  obtain ⟨t0, t1, t2, t3, target⟩ := IpAddress.exists_quad header.target
  have aligned := header.options_words
  have short := header.options_short
  obtain ⟨version, words⟩ := (ofHalves_eq_iff 4 (by decide)
    (by omega : 5 + header.options.length / 4 < 16)).mp rfl
  have behind : (ofHalves 4 (5 + header.options.length / 4) &&& 0x0f).toNat * 4 =
      header.options.length + 20 := by
    rw [words]
    omega
  have offset := fragmentOffset_eq_zero_iff.mpr ⟨header.flags, rfl⟩
  simp [Ipv4Header.bytes, Bytes.ofWord16, source, target, IpAddress.quad, ofIpv4?, version, behind,
    offset, -UInt8.toNat_and]

/-- A version 4 packet is read exactly from the octets of a header with what follows it; a later
fragment, a short length or another version does not have such a header. -/
theorem Packet.ofIpv4?_eq_some_iff {bytes : Bytes} {packet : Packet} :
    Packet.ofIpv4? bytes = some packet ↔
      ∃ header : Ipv4Header, header.bytes packet.protocol ++ packet.payload = bytes ∧
        .v4 header.source = packet.source ∧ .v4 header.target = packet.target := by
  constructor
  · intro read
    unfold Packet.ofIpv4? at read
    split at read
    · rename_i first service l0 l1 i0 i1 f0 f1 hops protocol c0 c1 s0 s1 s2 s3 t0 t1 t2 t3 rest
      dsimp only at read
      split at read
      · rename_i whole
        cases read
        obtain ⟨version, long, inside, offset⟩ := whole
        obtain ⟨flags, word⟩ := fragmentOffset_eq_zero_iff.mp offset
        have words_lt := toNat_half_lt first
        -- What the header has beyond twenty octets are its options.
        obtain ⟨extra, words⟩ := Nat.exists_eq_add_of_le long
        simp only [List.length_cons] at inside
        have taken : (rest.take extra).length = extra := List.length_take_of_le (by omega)
        have half : ofHalves 4 (5 + extra / 4) = first :=
          (ofHalves_eq_iff 4 (by decide) (by omega)).mpr ⟨version, by omega⟩
        refine ⟨{
          service, flags
          totalLength := Bytes.word16 l0 l1
          identification := Bytes.word16 i0 i1
          timeToLive := hops
          checksum := Bytes.word16 c0 c1
          source := IpAddress.quad s0 s1 s2 s3
          target := IpAddress.quad t0 t1 t2 t3
          options := rest.take extra
          options_words := by omega
          options_short := by omega }, ?_, rfl, rfl⟩
        rw [words, Nat.add_comm 20 extra]
        simp [Ipv4Header.bytes, taken, half, word, IpAddress.quad]
      · cases read
    · cases read
  · rintro ⟨header, rfl, source, target⟩
    rw [ofIpv4?_bytes]
    cases packet
    cases source
    cases target
    rfl

theorem Packet.ofIpv4?_of_short {bytes : Bytes} (short : bytes.length < 20) :
    Packet.ofIpv4? bytes = none := by
  apply Option.eq_none_iff_forall_ne_some.mpr
  intro packet read
  obtain ⟨header, rfl, -⟩ := ofIpv4?_eq_some_iff.mp read
  have length := header.length_bytes packet.protocol
  rw [List.length_append] at short
  omega

/-- A version 6 header is read back with its addresses, its next protocol and what stands behind it.
-/
theorem Packet.ofIpv6?_bytes (header : Ipv6Header) (protocol : UInt8) (payload : Bytes) :
    Packet.ofIpv6? (header.bytes protocol ++ payload) =
      some ⟨.v6 header.source, .v6 header.target, protocol, payload⟩ := by
  obtain ⟨version, -⟩ := (ofHalves_eq_iff 6 (by decide) header.trafficHigh.isLt).mp rfl
  simp [Ipv6Header.bytes, Bytes.ofWord16, ofIpv6?, version]

/-- A version 6 packet is read exactly from the octets of a header with what follows it. -/
theorem Packet.ofIpv6?_eq_some_iff {bytes : Bytes} {packet : Packet} :
    Packet.ofIpv6? bytes = some packet ↔
      ∃ header : Ipv6Header, header.bytes packet.protocol ++ packet.payload = bytes ∧
        .v6 header.source = packet.source ∧ .v6 header.target = packet.target := by
  constructor
  · intro read
    unfold Packet.ofIpv6? at read
    split at read
    · rename_i first second f0 f1 p0 p1 protocol hops addresses
      split at read
      · rename_i version
        simp only [Option.bind_eq_bind, Option.bind_eq_some_iff] at read
        obtain ⟨⟨_, behind⟩, readSource, ⟨_, payload⟩, readTarget, same⟩ := read
        obtain ⟨source, rfl, rfl⟩ := readIpv6?_eq_some_iff.mp readSource
        obtain ⟨target, rfl, rfl⟩ := readIpv6?_eq_some_iff.mp readTarget
        cases same
        have half_lt := toNat_half_lt first
        have halves : ofHalves 6 (first &&& 0x0f).toNat = first :=
          (ofHalves_eq_iff 6 (by decide) half_lt).mpr ⟨version, rfl⟩
        refine ⟨{
          source, target
          trafficHigh := ⟨(first &&& 0x0f).toNat, half_lt⟩
          trafficLow := second
          flow := Bytes.word16 f0 f1
          payloadLength := Bytes.word16 p0 p1
          hopLimit := hops }, ?_, rfl, rfl⟩
        simp [Ipv6Header.bytes, halves, -UInt8.toNat_and]
      · cases read
    · cases read
  · rintro ⟨header, rfl, source, target⟩
    rw [ofIpv6?_bytes]
    cases packet
    cases source
    cases target
    rfl

theorem Packet.ofIpv6?_of_short {bytes : Bytes} (short : bytes.length < 40) :
    Packet.ofIpv6? bytes = none := by
  apply Option.eq_none_iff_forall_ne_some.mpr
  intro packet read
  obtain ⟨header, rfl, -⟩ := ofIpv6?_eq_some_iff.mp read
  have length := header.length_bytes packet.protocol
  rw [List.length_append] at short
  omega

/-- A packet is read exactly from the octets of a header of the version that the frame announces. -/
theorem Packet.ofEther?_eq_some_iff {etherType : UInt16} {bytes : Bytes} {packet : Packet} :
    Packet.ofEther? etherType bytes = some packet ↔
      ∃ header : InternetHeader, header.etherType = etherType ∧
        header.bytes packet.protocol ++ packet.payload = bytes ∧
        header.source = packet.source ∧ header.target = packet.target := by
  unfold Packet.ofEther?
  constructor
  · intro read
    split at read
    · rename_i type
      obtain ⟨header, fields⟩ := ofIpv4?_eq_some_iff.mp read
      exact ⟨.v4 header, type.symm, fields⟩
    · split at read
      · rename_i type
        obtain ⟨header, fields⟩ := ofIpv6?_eq_some_iff.mp read
        exact ⟨.v6 header, type.symm, fields⟩
      · cases read
  · rintro ⟨header, rfl, fields⟩
    cases header with
    | v4 header => exact ofIpv4?_eq_some_iff.mpr ⟨header, fields⟩
    | v6 header => exact ofIpv6?_eq_some_iff.mpr ⟨header, fields⟩

/-! ### Transport headers -/

/-- Two protocols have ports, each under its own number. -/
theorem Transport.ofProtocol?_eq_some_iff {protocol : UInt8} {transport : Transport} :
    Transport.ofProtocol? protocol = some transport ↔ transport.protocol = protocol := by
  constructor
  · intro known
    unfold Transport.ofProtocol? at known
    split at known <;> cases known <;> rfl
  · rintro rfl
    cases transport <;> rfl

/-- How much of the shortest transport header follows the ports. -/
def Transport.restLength : Transport → Nat
  | .tcp => 16
  | .udp => 4

theorem Transport.headerLength_eq (transport : Transport) :
    transport.headerLength = 4 + transport.restLength := by
  cases transport <;> rfl

/-- Ports are read exactly where both stand and the rest of the header does too. -/
theorem Transport.ports?_eq_some_iff {transport : Transport} {bytes : Bytes}
    {sourcePort targetPort : UInt16} :
    transport.ports? bytes = some (sourcePort, targetPort) ↔
      ∃ body : Bytes, transport.restLength ≤ body.length ∧
        Bytes.ofWord16 sourcePort ++ Bytes.ofWord16 targetPort ++ body = bytes := by
  constructor
  · intro read
    unfold Transport.ports? at read
    split at read
    · rename_i s0 s1 t0 t1 body
      split at read
      · rename_i whole
        cases read
        refine ⟨body, ?_, by simp⟩
        simp only [headerLength_eq, List.length_cons] at whole
        omega
      · cases read
    · cases read
  · rintro ⟨body, whole, rfl⟩
    simp [Bytes.ofWord16, ports?, headerLength_eq]
    omega

/-- A header that was cut has no ports, not even if both of them stand there. -/
theorem Transport.ports?_of_short {transport : Transport} {bytes : Bytes}
    (short : bytes.length < transport.headerLength) : transport.ports? bytes = none := by
  apply Option.eq_none_iff_forall_ne_some.mpr
  rintro ⟨sourcePort, targetPort⟩ read
  obtain ⟨body, whole, rfl⟩ := ports?_eq_some_iff.mp read
  simp only [headerLength_eq, Bytes.ofWord16, List.length_append, List.length_cons,
    List.length_nil] at short
  omega

/-! ### VLAN tags -/

/-- What stands between the hardware addresses and the type of the packet. -/
def tagOctets : Option UInt16 → Bytes
  | none => []
  | some control => [0x81, 0x00] ++ Bytes.ofWord16 control

theorem ofWord16_etherVlan : Bytes.ofWord16 etherVlan = [0x81, 0x00] := by decide

/-- At most one tag is skipped.  Behind it any type may follow, also that of another one; without it
the type is not that of a tag. -/
theorem skipTag?_eq_some_iff {outer etherType : UInt16} {bytes behind : Bytes} :
    skipTag? outer bytes = some (etherType, behind) ↔
      ∃ tag, tagOctets tag ++ Bytes.ofWord16 etherType ++ behind = Bytes.ofWord16 outer ++ bytes ∧
        (tag = none → etherType ≠ etherVlan) := by
  unfold skipTag?
  constructor
  · intro read
    split at read
    · rename_i tagged
      split at read
      · rename_i c0 c1 high low rest
        cases read
        refine ⟨some (Bytes.word16 c0 c1), ?_, nofun⟩
        rw [tagged, ofWord16_etherVlan]
        simp [tagOctets]
      · cases read
    · rename_i untagged
      cases read
      exact ⟨none, rfl, fun _ => untagged⟩
  · rintro ⟨tag, same, plain⟩
    cases tag with
    | none =>
        obtain ⟨type, rfl⟩ := List.append_inj same rfl
        cases Bytes.ofWord16_inj.mp type
        exact if_neg (plain rfl)
    | some control =>
        rw [tagOctets, ← ofWord16_etherVlan, List.append_assoc, List.append_assoc] at same
        obtain ⟨type, rfl⟩ := List.append_inj same rfl
        cases Bytes.ofWord16_inj.mp type
        simp [Bytes.ofWord16]

theorem skipTag?_of_short {bytes : Bytes} (short : bytes.length < 4) :
    skipTag? etherVlan bytes = none := by
  apply Option.eq_none_iff_forall_ne_some.mpr
  rintro ⟨etherType, behind⟩ skipped
  obtain ⟨tag, same, plain⟩ := skipTag?_eq_some_iff.mp skipped
  cases tag with
  | none => exact plain rfl (Bytes.ofWord16_inj.mp (List.append_inj same rfl).1)
  | some control =>
      have length := congrArg List.length same
      simp only [tagOctets, Bytes.ofWord16, List.length_append, List.length_cons,
        List.length_nil] at length
      omega

/-! ### Frames -/

/-- Both internet types differ from that of a tag. -/
theorem InternetHeader.etherType_ne_vlan (header : InternetHeader) :
    header.etherType ≠ etherVlan := by
  cases header with
  | v4 header => exact (by decide : etherIpv4 ≠ etherVlan)
  | v6 header => exact (by decide : etherIpv6 ≠ etherVlan)

/-- A frame with a link header is decoded from the type in it on. -/
theorem Flow.ofFrame?_octets (target source : HardwareAddress) (outer : UInt16) (rest : Bytes) :
    Flow.ofFrame? (target.toList ++ source.toList ++ Bytes.ofWord16 outer ++ rest) = do
      let (etherType, bytes) ← skipTag? outer rest
      let packet ← Packet.ofEther? etherType bytes
      let transport ← Transport.ofProtocol? packet.protocol
      let (sourcePort, targetPort) ← transport.ports? packet.payload
      return {
        sourceHardware := source
        targetHardware := target
        source := packet.source
        target := packet.target
        transport, sourcePort, targetPort } := by
  obtain ⟨t0, t1, t2, t3, t4, t5, rfl⟩ := target.exists_octets
  obtain ⟨s0, s1, s2, s3, s4, s5, rfl⟩ := source.exists_octets
  simp [HardwareAddress.toList, HardwareAddress.ofOctets, Bytes.ofWord16, ofFrame?]

/-- A frame of fourteen octets or more has two addresses and a type. -/
theorem Flow.exists_octets {frame : Bytes} (long : 14 ≤ frame.length) :
    ∃ (target source : HardwareAddress) (outer : UInt16) (rest : Bytes),
      target.toList ++ source.toList ++ Bytes.ofWord16 outer ++ rest = frame := by
  obtain ⟨octets, rest, rfl⟩ := Bytes.exists_front long
  refine ⟨.ofOctets (octets 0) (octets 1) (octets 2) (octets 3) (octets 4) (octets 5),
    .ofOctets (octets 6) (octets 7) (octets 8) (octets 9) (octets 10) (octets 11),
    Bytes.word16 (octets 12) (octets 13), rest, ?_⟩
  rw [Bytes.ofWord16_word16]
  rfl

theorem Flow.length_of_ofFrame? {frame : Bytes} {flow : Flow}
    (read : Flow.ofFrame? frame = some flow) : 14 ≤ frame.length := by
  unfold ofFrame? at read
  split at read
  · simp only [List.length_cons]
    omega
  · cases read

/-- A frame that is decoded, part by part. -/
structure FrameLayout where
  target : HardwareAddress
  source : HardwareAddress
  /-- the control word of a VLAN tag -/
  tag : Option UInt16
  header : InternetHeader
  transport : Transport
  sourcePort : UInt16
  targetPort : UInt16
  /-- the rest of the transport header, and everything behind it -/
  body : Bytes
  /-- the transport header is there in full -/
  body_enough : transport.restLength ≤ body.length

namespace FrameLayout

/-- The ports and everything behind them. -/
def payload (layout : FrameLayout) : Bytes :=
  Bytes.ofWord16 layout.sourcePort ++ Bytes.ofWord16 layout.targetPort ++ layout.body

/-- The frame of a layout. -/
def bytes (layout : FrameLayout) : Bytes :=
  layout.target.toList ++ layout.source.toList ++ tagOctets layout.tag ++
    Bytes.ofWord16 layout.header.etherType ++ layout.header.bytes layout.transport.protocol ++
    layout.payload

/-- Who sends to whom in the frame of a layout. -/
def flow (layout : FrameLayout) : Flow where
  sourceHardware := layout.source
  targetHardware := layout.target
  source := layout.header.source
  target := layout.header.target
  transport := layout.transport
  sourcePort := layout.sourcePort
  targetPort := layout.targetPort

/-- The frame of a layout decodes to its flow. -/
theorem ofFrame?_bytes (layout : FrameLayout) : Flow.ofFrame? layout.bytes = some layout.flow := by
  -- The type behind the addresses is that of the tag, if there is one.
  obtain ⟨outer, rest, same⟩ : ∃ outer rest, tagOctets layout.tag ++
      Bytes.ofWord16 layout.header.etherType ++
        (layout.header.bytes layout.transport.protocol ++ layout.payload) =
          Bytes.ofWord16 outer ++ rest := by
    cases layout.tag with
    | none => exact ⟨_, _, rfl⟩
    | some control =>
        rw [tagOctets, ← ofWord16_etherVlan, List.append_assoc, List.append_assoc]
        exact ⟨_, _, rfl⟩
  have skipped := skipTag?_eq_some_iff.mpr
    ⟨layout.tag, same, fun _ => layout.header.etherType_ne_vlan⟩
  have packet : Packet.ofEther? layout.header.etherType
      (layout.header.bytes layout.transport.protocol ++ layout.payload) =
        some ⟨layout.header.source, layout.header.target, layout.transport.protocol,
          layout.payload⟩ :=
    Packet.ofEther?_eq_some_iff.mpr ⟨layout.header, rfl, rfl, rfl, rfl⟩
  have known := Transport.ofProtocol?_eq_some_iff.mpr (Eq.refl layout.transport.protocol)
  have ports : layout.transport.ports? layout.payload =
      some (layout.sourcePort, layout.targetPort) :=
    Transport.ports?_eq_some_iff.mpr ⟨layout.body, layout.body_enough, rfl⟩
  have whole : layout.bytes =
      layout.target.toList ++ layout.source.toList ++ Bytes.ofWord16 outer ++ rest := by
    rw [List.append_assoc _ (Bytes.ofWord16 outer), ← same]
    simp [bytes]
  rw [whole, Flow.ofFrame?_octets]
  simp [skipped, packet, known, ports, flow]

end FrameLayout

/-- The frames that are decoded are those of layouts. -/
theorem Flow.ofFrame?_eq_some_iff {frame : Bytes} {flow : Flow} :
    Flow.ofFrame? frame = some flow ↔
      ∃ layout : FrameLayout, layout.bytes = frame ∧ layout.flow = flow := by
  constructor
  · intro read
    obtain ⟨target, source, outer, rest, rfl⟩ := exists_octets (length_of_ofFrame? read)
    rw [ofFrame?_octets] at read
    simp only [Option.bind_eq_bind, Option.bind_eq_some_iff] at read
    obtain ⟨⟨etherType, _⟩, skipped, packet, framed, transport, known, ⟨sourcePort, targetPort⟩,
      ports, same⟩ := read
    cases same
    obtain ⟨header, rfl, rfl, sources, targets⟩ := Packet.ofEther?_eq_some_iff.mp framed
    obtain ⟨body, body_enough, payload⟩ := Transport.ports?_eq_some_iff.mp ports
    have protocol := Transport.ofProtocol?_eq_some_iff.mp known
    obtain ⟨tag, octets, -⟩ := skipTag?_eq_some_iff.mp skipped
    refine ⟨{ target, source, tag, header, transport, sourcePort, targetPort, body, body_enough },
      ?_, ?_⟩
    · rw [List.append_assoc _ (Bytes.ofWord16 outer), ← octets]
      simp [FrameLayout.bytes, FrameLayout.payload, protocol, ← payload]
    · simp [FrameLayout.flow, sources, targets]
  · rintro ⟨layout, rfl, rfl⟩
    exact layout.ofFrame?_bytes

/-- A tagged datagram with eight octets of data, behind a header with a word of options. -/
def sampleLayout : FrameLayout where
  target := .ofOctets 2 0 0 0 0 1
  source := .ofOctets 2 0 0 0 0 2
  tag := some 10
  header := .v4 {
    service := 0, totalLength := 40, identification := 7, flags := 2, timeToLive := 64
    checksum := 0
    source := IpAddress.quad 10 0 0 5
    target := IpAddress.quad 192 168 1 10
    options := [1, 1, 1, 0]
    options_words := by decide
    options_short := by decide }
  transport := .udp
  sourcePort := 5000
  targetPort := 53
  body := [0, 16, 0, 0, 1, 2, 3, 4, 5, 6, 7, 8]
  body_enough := by decide

example : Flow.ofFrame? sampleLayout.bytes = some sampleLayout.flow := by decide

/-- A byte less of the transport header, and nothing is decoded. -/
example : Flow.ofFrame? (sampleLayout.bytes.take 49) = none := by decide

/-! ### Longer frames -/

theorem InternetHeader.length_bytes (header : InternetHeader) (protocol : UInt8) :
    20 ≤ (header.bytes protocol).length := by
  cases header with
  | v4 header => exact (Nat.le_add_right 20 _).trans_eq (header.length_bytes protocol).symm
  | v6 header => exact (Nat.le_add_right 20 20).trans_eq (header.length_bytes protocol).symm

/-- The shortest frame that is decoded has a datagram without data. -/
theorem FrameLayout.length_bytes (layout : FrameLayout) : 42 ≤ layout.bytes.length := by
  have header := layout.header.length_bytes layout.transport.protocol
  have transport : 4 ≤ layout.transport.restLength := by cases layout.transport <;> decide
  have body := layout.body_enough
  simp only [bytes, payload, HardwareAddress.toList, Bytes.ofWord16, List.length_append,
    List.length_cons, List.length_nil, Vector.length_toList]
  omega

/-- No flow fits in fewer than 42 octets, those of an Ethernet, a version 4 and a short transport
header. -/
theorem Flow.ofFrame?_of_short {frame : Bytes} (short : frame.length < 42) :
    Flow.ofFrame? frame = none := by
  apply Option.eq_none_iff_forall_ne_some.mpr
  intro flow read
  obtain ⟨layout, rfl, -⟩ := ofFrame?_eq_some_iff.mp read
  exact Nat.not_lt.mpr layout.length_bytes short

/-- What follows a frame that is decoded changes nothing. -/
theorem Flow.ofFrame?_append {frame : Bytes} {flow : Flow}
    (read : Flow.ofFrame? frame = some flow) (more : Bytes) :
    Flow.ofFrame? (frame ++ more) = some flow := by
  obtain ⟨layout, rfl, rfl⟩ := ofFrame?_eq_some_iff.mp read
  have enough : layout.transport.restLength ≤ (layout.body ++ more).length := by
    rw [List.length_append]
    exact layout.body_enough.trans (Nat.le_add_right _ _)
  apply ofFrame?_eq_some_iff.mpr
  refine ⟨{ layout with body := layout.body ++ more, body_enough := enough }, ?_, rfl⟩
  simp [FrameLayout.bytes, FrameLayout.payload]

/-- The frame with a tag behind its hardware addresses. -/
def insertTag (control : UInt16) (frame : Bytes) : Bytes :=
  frame.take 12 ++ tagOctets (some control) ++ frame.drop 12

/-- A tag stands behind the hardware addresses. -/
def HasTag (frame : Bytes) : Prop :=
  (frame.drop 12).take 2 = [0x81, 0x00]

instance (frame : Bytes) : Decidable (HasTag frame) :=
  inferInstanceAs (Decidable ((frame.drop 12).take 2 = [0x81, 0x00]))

theorem length_addresses (target source : HardwareAddress) :
    (target.toList ++ source.toList).length = 12 := by
  simp [HardwareAddress.toList]

/-- A frame has a tag exactly if its type says so. -/
theorem hasTag_octets {target source : HardwareAddress} {outer : UInt16} {rest : Bytes} :
    HasTag (target.toList ++ source.toList ++ Bytes.ofWord16 outer ++ rest) ↔ outer = etherVlan := by
  have length : (Bytes.ofWord16 outer).length = 2 := rfl
  rw [HasTag, List.append_assoc, List.drop_left' (length_addresses target source),
    List.take_left' length, ← ofWord16_etherVlan]
  exact Bytes.ofWord16_inj

/-- A tag goes between the addresses and the type, which stays behind it. -/
theorem insertTag_octets (target source : HardwareAddress) (control outer : UInt16) (rest : Bytes) :
    insertTag control (target.toList ++ source.toList ++ Bytes.ofWord16 outer ++ rest) =
      target.toList ++ source.toList ++ Bytes.ofWord16 etherVlan ++
        (Bytes.ofWord16 control ++ Bytes.ofWord16 outer ++ rest) := by
  have addresses := length_addresses target source
  rw [insertTag, List.append_assoc _ (Bytes.ofWord16 outer), List.take_left' addresses,
    List.drop_left' addresses, ofWord16_etherVlan]
  simp [tagOctets]

/-- A first tag changes nothing, and a second one is refused. -/
theorem Flow.ofFrame?_insertTag (control : UInt16) (frame : Bytes) :
    Flow.ofFrame? (insertTag control frame) =
      if HasTag frame then none else Flow.ofFrame? frame := by
  by_cases long : 14 ≤ frame.length
  · obtain ⟨target, source, outer, rest, rfl⟩ := exists_octets long
    have inner : skipTag? etherVlan (Bytes.ofWord16 control ++ Bytes.ofWord16 outer ++ rest) =
        some (outer, rest) := by
      apply skipTag?_eq_some_iff.mpr
      refine ⟨some control, ?_, nofun⟩
      rw [ofWord16_etherVlan]
      rfl
    rw [insertTag_octets, ofFrame?_octets, inner]
    by_cases tagged : outer = etherVlan
    · rw [if_pos (hasTag_octets.mpr tagged), tagged]
      rfl
    · have skipped : skipTag? outer rest = some (outer, rest) :=
        skipTag?_eq_some_iff.mpr ⟨none, rfl, fun _ => tagged⟩
      rw [if_neg (tagged ∘ hasTag_octets.mp), ofFrame?_octets, skipped]
  · have inserted : (insertTag control frame).length < 42 := by
      simp [insertTag, tagOctets, Bytes.ofWord16]
      omega
    rw [ofFrame?_of_short inserted, ofFrame?_of_short (by omega), ite_self]

end TrafficMeter.Net
