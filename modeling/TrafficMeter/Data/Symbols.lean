/-
Module: TrafficMeter.Data.Symbols
Purpose: A byte string as the characters that it encodes, with a mark for every byte that belongs
  to none.
Main exports: Symbol, symbolsOfText, symbols
-/
import TrafficMeter.Bytes

namespace TrafficMeter.Data

/-- A character, or a byte that is part of none. -/
abbrev Symbol := Option Char

def symbolsOfText (text : String) : List Symbol :=
  text.toList.map some

/-- The character at the front and the number of octets that encode it. -/
def frontChar? (bytes : Bytes) : Option (Char × Nat) :=
  [1, 2, 3, 4].findSome? fun count =>
    match (Bytes.text? (bytes.take count)).map String.toList with
    | some [c] => some (c, count)
    | _ => none

/-- The characters one by one, where the byte string as a whole is no text. -/
def mixedSymbols : Bytes → List Symbol
  | [] => []
  | octet :: rest =>
      match frontChar? (octet :: rest) with
      | some (c, count) => some c :: mixedSymbols (rest.drop (count - 1))
      | none => none :: mixedSymbols rest
  termination_by bytes => bytes.length
  decreasing_by all_goals simp only [List.length_cons, List.length_drop]; omega

/-- The characters that a byte string encodes in UTF-8. -/
def symbols (bytes : Bytes) : List Symbol :=
  match Bytes.text? bytes with
  | some text => symbolsOfText text
  | none => mixedSymbols bytes

end TrafficMeter.Data
