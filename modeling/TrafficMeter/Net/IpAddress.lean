/-
Module: TrafficMeter.Net.IpAddress
Purpose: Internet addresses of both families and their canonical text.
Main exports: IpAddress, IpAddress.text, IpAddress.key, SocketAddress, SocketAddress.text
-/
import TrafficMeter.Text.Numeral

namespace TrafficMeter.Net

open Text

/-- An internet address: four octets, or eight groups of sixteen bits. -/
inductive IpAddress where
  | v4 (octets : Vector UInt8 4)
  | v6 (groups : Vector UInt16 8)
deriving DecidableEq, Repr, Inhabited

namespace IpAddress

/-- Four octets. -/
def quad (a b c d : UInt8) : Vector UInt8 4 := #v[a, b, c, d]

/-- The version 6 address of eight groups. -/
def ofGroups (a b c d e f g h : UInt16) : IpAddress := .v6 #v[a, b, c, d, e, f, g, h]

/-- The dotted text of four octets. -/
def dotted (octets : List UInt8) : List Char :=
  ['.'].intercalate (octets.map fun octet => decimal octet.toNat)

/-- The length of the run of zero groups at the front. -/
def zeroRun (groups : List UInt16) : Nat :=
  (groups.takeWhile (· == 0)).length

/-- Position and length of the longest run of zero groups, the first of several such. -/
def longestZeroRun (groups : List UInt16) : Nat × Nat :=
  (List.range groups.length).foldl
    (fun best start =>
      let length := zeroRun (groups.drop start)
      if best.2 < length then (start, length) else best)
    (0, 0)

/-- Groups in hexadecimal between colons. -/
def grouped (groups : List UInt16) : List Char :=
  [':'].intercalate (groups.map fun group => hex group.toNat)

/-- The octets of the address that a version 6 address carries in its last two groups when the
five groups in front are zero and the sixth has every bit set. -/
def mapped? : List UInt16 → Option (List UInt8)
  | [0, 0, 0, 0, 0, 0xffff, high, low] =>
      some [(high >>> 8).toUInt8, high.toUInt8, (low >>> 8).toUInt8, low.toUInt8]
  | _ => none

/-- The text of eight groups: the longest run of two or more zero groups is left out between two
colons, and a carried version 4 address is written with dots. -/
def groupsText (groups : List UInt16) : List Char :=
  match mapped? groups with
  | some octets => "::ffff:".toList ++ dotted octets
  | none =>
      let (start, length) := longestZeroRun groups
      if 1 < length then
        grouped (groups.take start) ++ "::".toList ++ grouped (groups.drop (start + length))
      else grouped groups

/-- The canonical text of an address. -/
def text : IpAddress → String
  | .v4 octets => String.ofList (dotted octets.toList)
  | .v6 groups => String.ofList (groupsText groups.toList)

/-- The number whose digits are the groups, most significant first. -/
def number (base : Nat) (digits : List Nat) : Nat :=
  digits.foldl (fun value digit => value * base + digit) 0

/-- The order key of an address: version 4 before version 6, then by number. -/
def key : IpAddress → Nat × Nat
  | .v4 octets => (4, number 256 (octets.toList.map UInt8.toNat))
  | .v6 groups => (6, number 65536 (groups.toList.map UInt16.toNat))

end IpAddress

/-- An address together with a port; a version 6 address may name the interface that it is
reached through. -/
structure SocketAddress where
  ip : IpAddress
  scope : UInt32 := 0
  port : UInt16
deriving DecidableEq, Repr, Inhabited

/-- The text of a socket address: version 6 in brackets, its scope behind a percent sign unless
it is zero. -/
def SocketAddress.text (address : SocketAddress) : String :=
  match address.ip with
  | .v4 _ => s!"{address.ip.text}:{address.port.toNat}"
  | .v6 _ =>
      if address.scope = 0 then s!"[{address.ip.text}]:{address.port.toNat}"
      else s!"[{address.ip.text}%{address.scope.toNat}]:{address.port.toNat}"

end TrafficMeter.Net
