/-
Module: TrafficMeter.Text.Blank
Purpose: The blank characters of a text and the cuts made at its two ends.
Main exports: blankRanges, isBlank, trimStart, trimEnd, trim, asciiLower
-/

namespace TrafficMeter.Text

/-- The code point ranges, both ends included, of the characters with the Unicode property
`White_Space`. -/
def blankRanges : List (Nat × Nat) :=
  [(0x09, 0x0D), (0x20, 0x20), (0x85, 0x85), (0xA0, 0xA0), (0x1680, 0x1680), (0x2000, 0x200A),
    (0x2028, 0x2029), (0x202F, 0x202F), (0x205F, 0x205F), (0x3000, 0x3000)]

/-- A character is blank when it has the Unicode property `White_Space`. -/
def isBlank (c : Char) : Bool :=
  blankRanges.any fun range => range.1 ≤ c.toNat && c.toNat ≤ range.2

example : (blankRanges.map fun range => range.2 - range.1 + 1).sum = 25 := rfl
example : isBlank '\u00a0' = true ∧ isBlank '\u200b' = false := by decide

/-- The text without the blanks in front of it. -/
def trimStart (text : List Char) : List Char :=
  text.dropWhile isBlank

/-- The text without the blanks behind it. -/
def trimEnd (text : List Char) : List Char :=
  (text.reverse.dropWhile isBlank).reverse

/-- The text without the blanks at either end. -/
def trim (text : List Char) : List Char :=
  trimEnd (trimStart text)

/-- The text with its ASCII capitals made small and every other character kept. -/
def asciiLower (text : List Char) : List Char :=
  text.map Char.toLower

end TrafficMeter.Text
