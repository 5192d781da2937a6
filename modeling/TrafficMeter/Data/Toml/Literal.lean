/-
Module: TrafficMeter.Data.Toml.Literal
Purpose: The quoted texts of a TOML text: basic ones, in which a backslash escapes, and literal
  ones, in which nothing does, each on one line or on several.
Main exports: Toml.isPlain, Toml.isBlank, Toml.newline?, Toml.quoted?, Toml.quotedLine?
-/
import TrafficMeter.Text.Numeral

namespace TrafficMeter.Data.Toml

open Text

/-- Blanks within a line. -/
def isBlank (c : Char) : Bool :=
  c == ' ' || c == '\t'

/-- A character that may stand in a comment and between quotes: no control character other than a
tabulator. -/
def isPlain (c : Char) : Bool :=
  c == '\t' || (0x20 ≤ c.toNat && c.toNat != 0x7F)

/-- What follows the end of line at the front. -/
def newline? : List Char → Option (List Char)
  | '\n' :: rest => some rest
  | '\r' :: '\n' :: rest => some rest
  | _ => none

/-- What follows the blanks and ends of lines at the front. -/
def skipLines : List Char → List Char
  | '\r' :: '\n' :: rest => skipLines rest
  | c :: rest => if isBlank c || c == '\n' then skipLines rest else c :: rest
  | [] => []

theorem length_skipLines (input : List Char) : (skipLines input).length ≤ input.length := by
  fun_induction skipLines input with
  | case1 rest ih => simp only [List.length_cons]; omega
  | case2 c rest _ _ ih => simp only [List.length_cons]; omega
  | case3 | case4 => exact Nat.le_refl _

/-! ### Escapes -/

/-- The character of an escape without digits. -/
def escaped? : Char → Option Char
  | '"' => some '"'
  | '\\' => some '\\'
  | 'b' => some '\x08'
  | 't' => some '\t'
  | 'n' => some '\n'
  | 'f' => some '\x0c'
  | 'r' => some '\r'
  | 'e' => some '\x1b'
  | _ => none

/-- The number of hexadecimal digits of an escape with digits; zero if it has none. -/
def escapeWidth : Char → Nat
  | 'x' => 2
  | 'u' => 4
  | 'U' => 8
  | _ => 0

/-- The character of an escape with the given letter and digits. -/
def escapeOf? (letter : Char) (digits : List Char) : Option Char :=
  if escapeWidth letter = 0 then escaped? letter
  else do
    guard (digits.length = escapeWidth letter)
    let code ← digitsValue? 16 digits
    if code.isValidChar then some (Char.ofNat code) else none

/-- What was read, with one more character in front of the content. -/
def before (c : Char) (read : List Char × List Char) : List Char × List Char :=
  (c :: read.1, read.2)

/-! ### Basic texts -/

/-- Read the inside of a basic text on one line, and its closing quote. -/
def basicLine? : List Char → Option (List Char × List Char)
  | [] => none
  | '"' :: rest => some ([], rest)
  | '\\' :: letter :: rest =>
      match escapeOf? letter (rest.take (escapeWidth letter)) with
      | some c => (basicLine? (rest.drop (escapeWidth letter))).map (before c)
      | none => none
  | c :: rest =>
      if isPlain c && c != '\\' then (basicLine? rest).map (before c) else none
  termination_by input => input.length
  decreasing_by all_goals simp only [List.length_cons, List.length_drop]; omega

/-- Read the end of a text on several lines behind three of its quotes: two more of them belong to
the content. -/
def closing (quote : Char) : List Char → List Char × List Char
  | a :: b :: rest =>
      if a = quote then if b = quote then ([a, b], rest) else ([a], b :: rest)
      else ([], a :: b :: rest)
  | [a] => if a = quote then ([a], []) else ([], [a])
  | [] => ([], [])

/-- Read the inside of a basic text on several lines, and its closing quotes.  A backslash at the
end of a line joins it to the next text. -/
def basicLines? : List Char → Option (List Char × List Char)
  | [] => none
  | '"' :: '"' :: '"' :: rest => some (closing '"' rest)
  | '\\' :: rest =>
      if (newline? (rest.dropWhile isBlank)).isSome then basicLines? (skipLines rest)
      else
        match rest with
        | [] => none
        | letter :: rest =>
            match escapeOf? letter (rest.take (escapeWidth letter)) with
            | some c => (basicLines? (rest.drop (escapeWidth letter))).map (before c)
            | none => none
  | '\r' :: '\n' :: rest => (basicLines? rest).map fun read => before '\r' (before '\n' read)
  | c :: rest =>
      if isPlain c || c == '\n' then (basicLines? rest).map (before c) else none
  termination_by input => input.length
  decreasing_by
    all_goals
      have := length_skipLines ‹_›
      simp only [List.length_cons, List.length_drop]; omega

/-! ### Literal texts -/

/-- Read the inside of a literal text on one line, and its closing quote. -/
def literalLine? : List Char → Option (List Char × List Char)
  | [] => none
  | '\'' :: rest => some ([], rest)
  | c :: rest => if isPlain c then (literalLine? rest).map (before c) else none

/-- Read the inside of a literal text on several lines, and its closing quotes. -/
def literalLines? : List Char → Option (List Char × List Char)
  | [] => none
  | '\'' :: '\'' :: '\'' :: rest => some (closing '\'' rest)
  | '\r' :: '\n' :: rest => (literalLines? rest).map fun read => before '\r' (before '\n' read)
  | c :: rest => if isPlain c || c == '\n' then (literalLines? rest).map (before c) else none

/-! ### All of them -/

/-- What follows the end of line right behind opening quotes, which is not part of the content. -/
def skipFirstNewline (input : List Char) : List Char :=
  (newline? input).getD input

/-- Read a quoted text on one line. -/
def quotedLine? : List Char → Option (List Char × List Char)
  | '"' :: rest => basicLine? rest
  | '\'' :: rest => literalLine? rest
  | _ => none

/-- Read a quoted text. -/
def quoted? : List Char → Option (List Char × List Char)
  | '"' :: '"' :: '"' :: rest => basicLines? (skipFirstNewline rest)
  | '\'' :: '\'' :: '\'' :: rest => literalLines? (skipFirstNewline rest)
  | input => quotedLine? input

end TrafficMeter.Data.Toml
