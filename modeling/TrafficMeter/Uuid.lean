/-
Module: TrafficMeter.Uuid
Purpose: Universally unique identifiers: their canonical text and the four spellings that are
  read.
Main exports: Uuid, Uuid.ofRandom, Uuid.version, Uuid.text, Uuid.read?
-/
import TrafficMeter.Text.Blank
import TrafficMeter.Text.Numeral

namespace TrafficMeter

open Text

/-- An identifier of 128 bits. -/
structure Uuid where
  bits : BitVec 128
deriving DecidableEq, Repr, Inhabited

namespace Uuid

/-- A random identifier: version four, and the variant that goes with it, around the given bits. -/
def ofRandom (random : Nat) : Uuid :=
  let bits := BitVec.ofNat 128 random
  let versionMask : BitVec 128 := 0xF <<< 76
  let variantMask : BitVec 128 := 0x3 <<< 62
  ⟨bits &&& ~~~versionMask &&& ~~~variantMask ||| 0x4 <<< 76 ||| 0x2 <<< 62⟩

def version (uuid : Uuid) : Nat :=
  (uuid.bits >>> 76).toNat % 16

/-- Where hyphens go: the lengths of the groups of digits. -/
def groupLengths : List Nat := [8, 4, 4, 4, 12]

/-- Digits in groups of the given lengths, with hyphens between them. -/
def hyphenate : List Nat → List Char → List Char
  | [], digits => digits
  | [_], digits => digits
  | length :: others, digits => digits.take length ++ '-' :: hyphenate others (digits.drop length)

/-- The canonical text: 32 small hexadecimal digits in five groups. -/
def text (uuid : Uuid) : String :=
  String.ofList (hyphenate groupLengths (hexPadded 32 uuid.bits.toNat))

/-- The digits of groups of the given lengths with hyphens between them. -/
def unhyphenate? : List Nat → List Char → Option (List Char)
  | [], digits => some digits
  | [_], digits => some digits
  | length :: others, digits =>
      match digits.drop length with
      | '-' :: rest => (unhyphenate? others rest).map (digits.take length ++ ·)
      | _ => none

/-- The identifier with the given 32 digits, in any case. -/
def ofDigits? (digits : List Char) : Option Uuid :=
  if digits.length = 32 then (digitsValue? 16 digits).map fun n => ⟨BitVec.ofNat 128 n⟩ else none

/-- The identifier with the given digits in five groups. -/
def ofGroups? (chars : List Char) : Option Uuid :=
  (unhyphenate? groupLengths chars).bind ofDigits?

/-- The name space in front of an identifier that is written as a resource name. -/
def resourcePrefix : List Char := "urn:uuid:".toList

/-- Read an identifier: 32 digits, or five groups with hyphens between them, which may stand in
braces or behind the name space. -/
def read? (text : String) : Option Uuid :=
  let chars := text.toList
  if chars.length = 32 then ofDigits? chars
  else if chars.length = 36 then ofGroups? chars
  else if chars.length = 38 ∧ chars.head? = some '{' ∧ chars.getLast? = some '}' then
    ofGroups? (chars.drop 1).dropLast
  else if chars.length = 45 ∧ asciiLower (chars.take 9) = resourcePrefix then
    ofGroups? (chars.drop 9)
  else none

end Uuid

end TrafficMeter
