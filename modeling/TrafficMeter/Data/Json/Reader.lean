/-
Module: TrafficMeter.Data.Json.Reader
Purpose: Read JSON.  The grammar is that of the standard, of any depth.  A string literal may hold
  halves of surrogate pairs or bytes that are no text; it is then well formed and denotes no text.
Main exports: Json.read?, Json.ofBytes?, Json.ofText?
-/
import TrafficMeter.Data.Symbols
import TrafficMeter.Data.Value

namespace TrafficMeter.Data.Json

open Text

/-- The blanks between tokens. -/
def isBlank (symbol : Symbol) : Bool :=
  symbol == some ' ' || symbol == some '\t' || symbol == some '\n' || symbol == some '\r'

/-- What follows the blanks at the front. -/
def skipBlanks (input : List Symbol) : List Symbol :=
  input.dropWhile isBlank

theorem length_skipBlanks (input : List Symbol) : (skipBlanks input).length ≤ input.length :=
  (List.dropWhile_sublist isBlank).length_le

theorem length_lt_of_skipBlanks {input rest : List Symbol} {symbol : Symbol}
    (h : skipBlanks input = symbol :: rest) : rest.length < input.length := by
  have le := length_skipBlanks input
  rw [h] at le
  exact le

/-- What is left of an input after a reader that took at least one symbol. -/
abbrev Rest (input : List Symbol) := { rest : List Symbol // rest.length < input.length }

/-- Read one given character behind blanks. -/
def expect? (c : Char) (input : List Symbol) : Option (Rest input) :=
  match h : skipBlanks input with
  | some first :: rest =>
      if first = c then some ⟨rest, length_lt_of_skipBlanks h⟩ else none
  | _ => none

/-! ### Strings -/

/-- A part of a string literal. -/
inductive Piece where
  | char (c : Char)
  /-- sixteen bits, written as an escape -/
  | unit (value : Nat)
  /-- a byte that is part of no character -/
  | stray
deriving DecidableEq, Repr

/-- The character of a one-letter escape. -/
def escaped? : Char → Option Char
  | '"' => some '"'
  | '\\' => some '\\'
  | '/' => some '/'
  | 'b' => some '\x08'
  | 'f' => some '\x0c'
  | 'n' => some '\n'
  | 'r' => some '\r'
  | 't' => some '\t'
  | _ => none

/-- Read the inside of a string literal and its closing quote.  Control characters must be
escaped. -/
def readPieces : (input : List Symbol) → Option (List Piece × Rest input)
  | [] => none
  | some '"' :: rest => some ([], ⟨rest, by simp only [List.length_cons]; omega⟩)
  | some '\\' :: some 'u' :: some a :: some b :: some c :: some d :: rest =>
      match digitsValue? 16 [a, b, c, d], readPieces rest with
      | some value, some (pieces, ⟨behind, h⟩) =>
          some (.unit value :: pieces, ⟨behind, by simp only [List.length_cons]; omega⟩)
      | _, _ => none
  | some '\\' :: some letter :: rest =>
      match escaped? letter, readPieces rest with
      | some c, some (pieces, ⟨behind, h⟩) =>
          some (.char c :: pieces, ⟨behind, by simp only [List.length_cons]; omega⟩)
      | _, _ => none
  | none :: rest =>
      match readPieces rest with
      | some (pieces, ⟨behind, h⟩) =>
          some (.stray :: pieces, ⟨behind, by simp only [List.length_cons]; omega⟩)
      | none => none
  | some c :: rest =>
      if c = '\\' ∨ c.toNat < 0x20 then none
      else
        match readPieces rest with
        | some (pieces, ⟨behind, h⟩) =>
            some (.char c :: pieces, ⟨behind, by simp only [List.length_cons]; omega⟩)
        | none => none

/-- Whether sixteen bits are the first half of a surrogate pair. -/
def isHighHalf (value : Nat) : Bool := 0xD800 ≤ value && value < 0xDC00

/-- Whether sixteen bits are the second half of a surrogate pair. -/
def isLowHalf (value : Nat) : Bool := 0xDC00 ≤ value && value < 0xE000

/-- The characters that the parts of a string literal denote. -/
def charsOf? : List Piece → Option (List Char)
  | [] => some []
  | .char c :: rest => (charsOf? rest).map (c :: ·)
  | .unit high :: .unit low :: rest =>
      if isHighHalf high && isLowHalf low then
        (charsOf? rest).map
          (Char.ofNat (0x10000 + (high - 0xD800) * 0x400 + (low - 0xDC00)) :: ·)
      else if isHighHalf high || isLowHalf high then none
      else (charsOf? (.unit low :: rest)).map (Char.ofNat high :: ·)
  | .unit value :: rest =>
      if isHighHalf value || isLowHalf value then none
      else (charsOf? rest).map (Char.ofNat value :: ·)
  | .stray :: _ => none

/-- The text that the parts of a string literal denote. -/
def textOf? (pieces : List Piece) : Option String :=
  (charsOf? pieces).map String.ofList

/-- Read the name of a member and the colon behind it. -/
def readName (input : List Symbol) : Option (Option String × Rest input) :=
  match expect? '"' input with
  | none => none
  | some ⟨inside, _⟩ =>
      match readPieces inside with
      | none => none
      | some (pieces, ⟨rest, _⟩) =>
          match expect? ':' rest with
          | some ⟨behind, _⟩ => some (textOf? pieces, ⟨behind, by omega⟩)
          | none => none

/-! ### Numbers -/

/-- The decimal digits at the front. -/
def leadingDigits : List Symbol → List Char
  | some c :: rest => if c.isDigit then c :: leadingDigits rest else []
  | _ => []

/-- An exponent at the front, or nothing; `none` if one is begun and not finished. -/
def exponent? : List Symbol → Option (List Char)
  | some e :: rest =>
      if e = 'e' ∨ e = 'E' then
        let (sign, rest) := match rest with
          | some '+' :: rest => (['+'], rest)
          | some '-' :: rest => (['-'], rest)
          | rest => ([], rest)
        let digits := leadingDigits rest
        if digits.isEmpty then none else some (e :: sign ++ digits)
      else some []
  | _ => some []

/-- A fraction at the front, or nothing; `none` if one is begun and not finished. -/
def fraction? : List Symbol → Option (List Char)
  | some '.' :: rest =>
      let digits := leadingDigits rest
      if digits.isEmpty then none else some ('.' :: digits)
  | _ => some []

/-- A number literal at the front: an integer without leading zeros, then a fraction and an
exponent, which may be left out. -/
def numberLiteral? (input : List Symbol) : Option (List Char) := do
  let sign := match input with
    | some '-' :: _ => ['-']
    | _ => []
  let input := input.drop sign.length
  let whole := leadingDigits input
  guard (whole ≠ [] ∧ (whole.length = 1 ∨ whole.head? ≠ some '0'))
  let input := input.drop whole.length
  let fraction ← fraction? input
  let exponent ← exponent? (input.drop fraction.length)
  return sign ++ whole ++ fraction ++ exponent

/-! ### Values -/

mutual

def readValue (input : List Symbol) : Option (Value × Rest input) :=
  match h : skipBlanks input with
  | some '"' :: rest =>
      have shorter := length_lt_of_skipBlanks h
      match readPieces rest with
      | some (pieces, ⟨behind, _⟩) => some (.text (textOf? pieces), ⟨behind, by omega⟩)
      | none => none
  | some '[' :: rest =>
      have shorter := length_lt_of_skipBlanks h
      match readItems rest with
      | some (items, ⟨behind, _⟩) => some (.list items, ⟨behind, by omega⟩)
      | none => none
  | some '{' :: rest =>
      have shorter := length_lt_of_skipBlanks h
      match readMembers rest with
      | some (members, ⟨behind, _⟩) => some (.record members, ⟨behind, by omega⟩)
      | none => none
  | some 't' :: some 'r' :: some 'u' :: some 'e' :: rest =>
      have shorter := length_lt_of_skipBlanks h
      some (.bool true, ⟨rest, by simp only [List.length_cons] at shorter; omega⟩)
  | some 'f' :: some 'a' :: some 'l' :: some 's' :: some 'e' :: rest =>
      have shorter := length_lt_of_skipBlanks h
      some (.bool false, ⟨rest, by simp only [List.length_cons] at shorter; omega⟩)
  | some 'n' :: some 'u' :: some 'l' :: some 'l' :: rest =>
      have shorter := length_lt_of_skipBlanks h
      some (.null, ⟨rest, by simp only [List.length_cons] at shorter; omega⟩)
  | symbol :: rest =>
      have shorter := length_lt_of_skipBlanks h
      match numberLiteral? (symbol :: rest) with
      | some literal =>
          some (.number (some literal), ⟨rest.drop (literal.length - 1), by
            simp only [List.length_drop]; omega⟩)
      | none => none
  | [] => none
  termination_by (input.length, 0)

/-- Read the items of a list behind its bracket, with the closing one. -/
def readItems (input : List Symbol) : Option (List Value × Rest input) :=
  match expect? ']' input with
  | some rest => some ([], rest)
  | none => readMoreItems input
  termination_by (input.length, 2)

/-- Read one item of a list and those behind it, with the closing bracket. -/
def readMoreItems (input : List Symbol) : Option (List Value × Rest input) :=
  match readValue input with
  | none => none
  | some (item, ⟨rest, _⟩) =>
      match expect? ']' rest with
      | some ⟨behind, _⟩ => some ([item], ⟨behind, by omega⟩)
      | none =>
          match expect? ',' rest with
          | none => none
          | some ⟨more, _⟩ =>
              match readMoreItems more with
              | some (items, ⟨behind, _⟩) => some (item :: items, ⟨behind, by omega⟩)
              | none => none
  termination_by (input.length, 1)

/-- Read the members of a record behind its brace, with the closing one. -/
def readMembers (input : List Symbol) :
    Option (List (Option String × Value) × Rest input) :=
  match expect? '}' input with
  | some rest => some ([], rest)
  | none => readMoreMembers input
  termination_by (input.length, 2)

/-- Read one member of a record and those behind it, with the closing brace. -/
def readMoreMembers (input : List Symbol) :
    Option (List (Option String × Value) × Rest input) :=
  match readName input with
  | none => none
  | some (name, ⟨inner, _⟩) =>
      match readValue inner with
      | none => none
      | some (value, ⟨rest, _⟩) =>
          match expect? '}' rest with
          | some ⟨behind, _⟩ => some ([(name, value)], ⟨behind, by omega⟩)
          | none =>
              match expect? ',' rest with
              | none => none
              | some ⟨more, _⟩ =>
                  match readMoreMembers more with
                  | some (members, ⟨behind, _⟩) =>
                      some ((name, value) :: members, ⟨behind, by omega⟩)
                  | none => none
  termination_by (input.length, 1)

end

/-- Read a whole input as one value. -/
def read? (input : List Symbol) : Option Value :=
  match readValue input with
  | some (value, ⟨rest, _⟩) => if (skipBlanks rest).isEmpty then some value else none
  | none => none

def ofBytes? (bytes : Bytes) : Option Value :=
  read? (symbols bytes)

def ofText? (text : String) : Option Value :=
  read? (symbolsOfText text)

end TrafficMeter.Data.Json
