/-
Module: TrafficMeter.Net.HardwareAddress
Purpose: Hardware addresses of network interfaces, their text and the reader of it.
Main exports: HardwareAddress, HardwareAddress.Fault, HardwareAddress.read, HardwareAddress.text
-/
import TrafficMeter.Text.Blank
import TrafficMeter.Text.Numeral

namespace TrafficMeter.Net

open Text

/-- The six octets that tell one network interface from another on its link. -/
structure HardwareAddress where
  octets : Vector UInt8 6
deriving DecidableEq, Repr, Inhabited

namespace HardwareAddress

def ofOctets (a b c d e f : UInt8) : HardwareAddress := ⟨#v[a, b, c, d, e, f]⟩

/-- The address of no interface: every octet is zero. -/
def zero : HardwareAddress := ofOctets 0 0 0 0 0 0

/-- Whether every octet is zero. -/
def isZero (address : HardwareAddress) : Bool :=
  address == zero

/-- The octets in order. -/
def toList (address : HardwareAddress) : List UInt8 :=
  address.octets.toList

/-- Why a text is not a hardware address. -/
inductive Fault where
  /-- fewer than six parts -/
  | tooShort (text : String)
  /-- more than six parts -/
  | tooLong (text : String)
  /-- a part among the first six that is not a hexadecimal number below 256 -/
  | badOctet (octet text : String)
deriving DecidableEq, Repr

def Fault.message : Fault → String
  | .tooShort text => s!"hardware address '{text}' is too short"
  | .tooLong text => s!"hardware address '{text}' is too long"
  | .badOctet octet text => s!"invalid octet '{octet}' in hardware address '{text}'"

/-- The parts between colons; a text without a colon is one part. -/
def parts : List Char → List (List Char)
  | [] => [[]]
  | c :: rest =>
      if c = ':' then [] :: parts rest
      else match parts rest with
        | [] => [[c]]
        | first :: others => (c :: first) :: others

/-- One part read as an octet: a hexadecimal number below 256. -/
def readOctet? (part : List Char) : Option UInt8 :=
  (readUnsigned? 16 256 part).map UInt8.ofNat

/-- The octets of the leading parts, or the first part that is none. -/
def readOctets : List (List Char) → Except (List Char) (List UInt8)
  | [] => .ok []
  | part :: others =>
      match readOctet? part with
      | none => .error part
      | some octet => (readOctets others).map (octet :: ·)

/-- Read an address: six octets between colons, blanks around the whole ignored.  A bad octet
among the first six parts is reported before their number is. -/
def read (text : String) : Except Fault HardwareAddress :=
  let all := parts (trim text.toList)
  match readOctets (all.take 6) with
  | .error part => .error (.badOctet (String.ofList part) text)
  | .ok [a, b, c, d, e, f] =>
      if all.length = 6 then .ok (ofOctets a b c d e f) else .error (.tooLong text)
  | .ok _ => .error (.tooShort text)

/-- The written form: two lower-case hexadecimal digits for each octet, between colons. -/
def text (address : HardwareAddress) : String :=
  String.ofList ([':'].intercalate (address.toList.map fun octet => hexPadded 2 octet.toNat))

end HardwareAddress

end TrafficMeter.Net
