/-
Module: TrafficMeter.Net.IpAddress.Reader
Purpose: Readers of internet and socket addresses.  Each takes the characters in front of it and
  returns what it read with the rest; a whole text is read when nothing is left.
Main exports: IpAddress.read?, SocketAddress.read?
-/
import TrafficMeter.Net.IpAddress

namespace TrafficMeter.Net

open Text

/-- How a numeral inside an address is spelled. -/
structure NumeralStyle where
  radix : Nat
  /-- the largest number of digits, if there is one -/
  width : Option Nat
  /-- whether further digits may follow a leading zero -/
  leadingZeros : Bool
  /-- the value stays below this -/
  bound : Nat

/-- One decimal octet of a dotted address. -/
def NumeralStyle.octet : NumeralStyle := ⟨10, some 3, false, 256⟩

/-- One hexadecimal group of a version 6 address. -/
def NumeralStyle.group : NumeralStyle := ⟨16, some 4, true, 65536⟩

def NumeralStyle.port : NumeralStyle := ⟨10, none, true, 65536⟩

/-- The number of an interface. -/
def NumeralStyle.scope : NumeralStyle := ⟨10, none, true, 4294967296⟩

/-- Read the longest run of digits as a numeral of the given style. -/
def NumeralStyle.read? (style : NumeralStyle) (text : List Char) : Option (Nat × List Char) := do
  let isDigit := fun c => (digit? style.radix c).isSome
  let digits := text.takeWhile isDigit
  let value ← digitsBelow? style.radix style.bound digits
  guard (digits ≠ [])
  guard (style.width.all (digits.length ≤ ·))
  guard (style.leadingZeros || digits.length ≤ 1 || digits.head? ≠ some '0')
  return (value, text.dropWhile isDigit)

def readChar? (c : Char) : List Char → Option (List Char)
  | first :: rest => if first = c then some rest else none
  | [] => none

namespace IpAddress

/-- Read `count` octets with dots between them. -/
def readOctets? : Nat → List Char → Option (List UInt8 × List Char)
  | 0, text => some ([], text)
  | 1, text => do
      let (value, rest) ← NumeralStyle.octet.read? text
      return ([UInt8.ofNat value], rest)
  | count + 2, text => do
      let (value, rest) ← NumeralStyle.octet.read? text
      let rest ← readChar? '.' rest
      let (others, rest) ← readOctets? (count + 1) rest
      return (UInt8.ofNat value :: others, rest)

def readDotted? (text : List Char) : Option (Vector UInt8 4 × List Char) :=
  match readOctets? 4 text with
  | some ([a, b, c, d], rest) => some (quad a b c d, rest)
  | _ => none

/-- What a series of groups amounts to: the groups, whether the last two were written as a
dotted address, and the rest. -/
structure GroupRun where
  groups : List UInt16
  dotted : Bool
  rest : List Char

/-- The colon that separates a group from one before it. -/
def separator? (isFirst : Bool) (text : List Char) : Option (List Char) :=
  if isFirst then some text else readChar? ':' text

/-- Two groups from a dotted address. -/
def pairOfDotted (octets : Vector UInt8 4) : List UInt16 :=
  [octets[0].toUInt16 <<< 8 ||| octets[1].toUInt16, octets[2].toUInt16 <<< 8 ||| octets[3].toUInt16]

/-- Read at most `room` groups with colons between them.  Where two groups still fit, a dotted
address may stand for them, and then the series ends. -/
def readGroups : Nat → Bool → List Char → GroupRun
  | 0, _, text => ⟨[], false, text⟩
  | room + 1, isFirst, text =>
      match (separator? isFirst text).bind fun inner =>
          if room = 0 then none else readDotted? inner with
      | some (octets, rest) => ⟨pairOfDotted octets, true, rest⟩
      | none =>
          match (separator? isFirst text).bind NumeralStyle.group.read? with
          | some (value, rest) =>
              let run := readGroups room false rest
              { run with groups := UInt16.ofNat value :: run.groups }
          | none => ⟨[], false, text⟩

def ofGroups? : List UInt16 → Option IpAddress
  | [a, b, c, d, e, f, g, h] => some (ofGroups a b c d e f g h)
  | _ => none

/-- Read a version 6 address: eight groups, or fewer on both sides of two colons that stand for
at least one zero group. -/
def readV6? (text : List Char) : Option (IpAddress × List Char) := do
  let front := readGroups 8 true text
  if front.groups.length = 8 then
    return (← ofGroups? front.groups, front.rest)
  guard (!front.dotted)
  let rest ← readChar? ':' front.rest
  let rest ← readChar? ':' rest
  let back := readGroups (7 - front.groups.length) true rest
  let zeros := List.replicate (8 - front.groups.length - back.groups.length) 0
  return (← ofGroups? (front.groups ++ zeros ++ back.groups), back.rest)

def readV4? (text : List Char) : Option (IpAddress × List Char) :=
  (readDotted? text).map fun (octets, rest) => (.v4 octets, rest)

/-- Read a whole text as an address of either family. -/
def read? (text : String) : Option IpAddress :=
  match (readV4? text.toList).or (readV6? text.toList) with
  | some (address, []) => some address
  | _ => none

end IpAddress

namespace SocketAddress

/-- Read a version 4 address and a port. -/
def readV4? (text : List Char) : Option (SocketAddress × List Char) := do
  let (ip, rest) ← IpAddress.readV4? text
  let rest ← readChar? ':' rest
  let (port, rest) ← NumeralStyle.port.read? rest
  return ({ ip, port := UInt16.ofNat port }, rest)

/-- Read the scope behind a percent sign; without the sign it is zero. -/
def readScope? (text : List Char) : Option (UInt32 × List Char) :=
  match readChar? '%' text with
  | none => some (0, text)
  | some rest => (NumeralStyle.scope.read? rest).map fun (scope, rest) => (UInt32.ofNat scope, rest)

/-- Read a version 6 address in brackets and a port. -/
def readV6? (text : List Char) : Option (SocketAddress × List Char) := do
  let rest ← readChar? '[' text
  let (ip, rest) ← IpAddress.readV6? rest
  let (scope, rest) ← readScope? rest
  let rest ← readChar? ']' rest
  let rest ← readChar? ':' rest
  let (port, rest) ← NumeralStyle.port.read? rest
  return ({ ip, scope, port := UInt16.ofNat port }, rest)

/-- Read a whole text as a socket address. -/
def read? (text : String) : Option SocketAddress :=
  match (readV4? text.toList).or (readV6? text.toList) with
  | some (address, []) => some address
  | _ => none

end SocketAddress

end TrafficMeter.Net
