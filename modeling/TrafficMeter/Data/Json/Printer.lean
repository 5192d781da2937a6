/-
Module: TrafficMeter.Data.Json.Printer
Purpose: Write values as compact JSON: no blanks between tokens, members in their order, and only
  those characters escaped that must be.
Main exports: Json.escape, Json.literal, Json.numeral, Json.chars, Json.write
-/
import TrafficMeter.Data.Value

namespace TrafficMeter.Data.Json

open Text

/-- A character as it stands in a string literal: quotes, backslashes and control characters are
escaped, those with a letter of their own by it. -/
def escape (c : Char) : List Char :=
  if c = '"' then ['\\', '"']
  else if c = '\\' then ['\\', '\\']
  else if c = '\x08' then ['\\', 'b']
  else if c = '\t' then ['\\', 't']
  else if c = '\n' then ['\\', 'n']
  else if c = '\x0c' then ['\\', 'f']
  else if c = '\r' then ['\\', 'r']
  else if c.toNat < 0x20 then '\\' :: 'u' :: hexPadded 4 c.toNat
  else [c]

/-- A string literal.  What is no text is written as half of a surrogate pair, which is none
either. -/
def literal : Option String → List Char
  | some content => '"' :: content.toList.flatMap escape ++ ['"']
  | none => ['"', '\\', 'u', 'd', '8', '0', '0', '"']

/-- A number.  What denotes none is written as one that is out of reach. -/
def numeral (digits : Option (List Char)) : List Char :=
  digits.getD ['1', 'e', '9', '9', '9']

mutual

def chars : Value → List Char
  | .null => ['n', 'u', 'l', 'l']
  | .bool true => ['t', 'r', 'u', 'e']
  | .bool false => ['f', 'a', 'l', 's', 'e']
  | .number digits => numeral digits
  | .text content => literal content
  | .list items => '[' :: itemsChars items ++ [']']
  | .record members => '{' :: membersChars members ++ ['}']

/-- The characters of items, with commas between them. -/
def itemsChars : List Value → List Char
  | [] => []
  | [item] => chars item
  | item :: others => chars item ++ ',' :: itemsChars others

/-- The characters of members, with commas between them. -/
def membersChars : List (Option String × Value) → List Char
  | [] => []
  | [(name, value)] => literal name ++ ':' :: chars value
  | (name, value) :: others => literal name ++ ':' :: chars value ++ ',' :: membersChars others

end

/-- The text of a value. -/
def write (value : Value) : String :=
  String.ofList (chars value)

end TrafficMeter.Data.Json
