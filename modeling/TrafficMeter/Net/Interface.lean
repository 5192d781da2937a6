/-
Module: TrafficMeter.Net.Interface
Purpose: Network interfaces, and which of the listed links can be captured on.
Main exports: Interface, Link, Link.interface?, Interface.discover, Listing, Listing.discover
-/
import TrafficMeter.Net.HardwareAddress

namespace TrafficMeter.Net

open Text

/-- A network interface that can be captured on. -/
structure Interface where
  name : String
  address : HardwareAddress
deriving DecidableEq, Repr, Inhabited

/-- What the system says about one link: the texts of its flags and of its address, where they
can be read. -/
structure Link where
  name : String
  flags : Option String
  address : Option String
deriving DecidableEq, Repr, Inhabited

/-- The flag of a link that is up. -/
def upFlag : UInt32 := 0x1

/-- The flag of a loopback link. -/
def loopbackFlag : UInt32 := 0x8

/-- Flags are a hexadecimal number, with or without "0x" in front, blanks around it ignored. -/
def readFlags? (text : String) : Option UInt32 :=
  let digits := match trim text.toList with
    | '0' :: 'x' :: rest => rest
    | other => other
  (readUnsigned? 16 4294967296 digits).map UInt32.ofNat

/-- The interface of a link that is up, is no loopback and has a hardware address other than
zero. -/
def Link.interface? (link : Link) : Option Interface := do
  let flags ← link.flags.bind readFlags?
  guard (flags &&& loopbackFlag = 0 ∧ flags &&& upFlag ≠ 0)
  let text ← link.address
  let address ← (HardwareAddress.read text).toOption
  guard (!address.isZero)
  return { name := link.name, address }

/-- A list of wanted names; the empty list wants every name. -/
def wants (wanted : List String) (name : String) : Bool :=
  wanted.isEmpty || wanted.contains name

/-- The interfaces among the links that are wanted, sorted by name. -/
def Interface.discover (links : List Link) (wanted : List String) : List Interface :=
  ((links.filter fun link => wants wanted link.name).filterMap Link.interface?).mergeSort
    fun left right => left.name ≤ right.name

/-- What comes of listing the links of the system: why they cannot be listed, or one after another.
In place of a link there may be the reason why the listing broke off there. -/
abbrev Listing :=
  Except String (List (Except String Link))

/-- The wanted interfaces of a listing.  There are none at all if the listing broke off, be it at a
link that is not wanted. -/
def Listing.discover (listing : Listing) (wanted : List String) : Except String (List Interface) := do
  let entries ← listing
  let links ← entries.mapM id
  return Interface.discover links wanted

end TrafficMeter.Net
