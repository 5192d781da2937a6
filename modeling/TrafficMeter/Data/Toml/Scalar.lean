/-
Module: TrafficMeter.Data.Toml.Scalar
Purpose: The values of a TOML text that are written without quotes: truth values, numbers and
  moments in time.
Main exports: Toml.ungroup?, Toml.Numeral, Toml.number?, Toml.isMoment, Toml.isDay, Toml.scalar?
-/
import TrafficMeter.Data.Value
import TrafficMeter.Timestamp

namespace TrafficMeter.Data.Toml

open Text

/-! ### Numbers -/

/-- Whether a character is a digit of a radix. -/
def isDigitOf (radix : Nat) (c : Char) : Bool :=
  (digit? radix c).isSome

/-- The characters of a number without the underscores that group its digits.  An underscore must
stand between two digits; `behindDigit` says whether the text itself stands behind one. -/
def ungroup? (isDigit : Char → Bool) (behindDigit : Bool) : List Char → Option (List Char)
  | [] => some []
  | c :: rest =>
      if c = '_' then
        if behindDigit && rest.head?.any isDigit then ungroup? isDigit false rest else none
      else (ungroup? isDigit (isDigit c) rest).map (c :: ·)

/-- A number with a point or an exponent. -/
structure Numeral where
  whole : List Char
  /-- the digits behind the point, if there is one -/
  fraction : Option (List Char)
  exponent : Option Int
deriving DecidableEq, Repr

/-- Read the sign of a number; whether it is a minus comes first. -/
def readSign : List Char → Bool × List Char
  | '-' :: rest => (true, rest)
  | '+' :: rest => (false, rest)
  | rest => (false, rest)

/-- A number behind its sign. -/
def signedBy (negative : Bool) (magnitude : Nat) : Int :=
  if negative then -(magnitude : Int) else magnitude

/-- A bound that no number of digits in a text comes near. -/
def exponentBound : Nat := 18446744073709551616

/-- Read the exponent of a number, up to the end; it may be missing.  What reaches the bound counts
as the bound. -/
def exponent? : List Char → Option (Option Int)
  | [] => some none
  | e :: rest => do
      guard (e = 'e' ∨ e = 'E')
      let (negative, digits) := readSign rest
      guard (digits ≠ [] ∧ digits.all Char.isDigit)
      return some (signedBy negative ((digitsBelow? 10 exponentBound digits).getD exponentBound))

/-- Read a whole text without sign and underscores as a number. -/
def Numeral.read? (text : List Char) : Option Numeral := do
  let whole := text.takeWhile Char.isDigit
  guard (whole ≠ [])
  match text.drop whole.length with
  | '.' :: rest =>
      let fraction := rest.takeWhile Char.isDigit
      guard (fraction ≠ [])
      return ⟨whole, fraction, ← exponent? (rest.drop fraction.length)⟩
  | rest => return ⟨whole, none, ← exponent? rest⟩

/-- Half a unit beyond the largest double: what is as large rounds to no finite one. -/
def doubleBound : Nat := (1 <<< 1024) - (1 <<< 970)

/-- Whether a number rounds to a finite double.  Since the bound is whole, the digits in front of
the point decide; a number with more than 310 of them is beyond it. -/
def Numeral.isFinite (numeral : Numeral) : Bool :=
  let fraction := numeral.fraction.getD []
  let digits := (numeral.whole ++ fraction).dropWhile (· == '0')
  let scale := numeral.exponent.getD 0 - fraction.length
  let width := digits.length + scale
  if digits.isEmpty then true
  else if 310 < width then false
  else
    let filled := digits ++ List.replicate scale.toNat '0'
    (digitsBelow? 10 doubleBound (filled.take width.toNat)).isSome

/-- The smallest signed integer of 128 bits. -/
def smallestInteger : Int := -170141183460469231731687303715884105728

/-- The number of unsigned integers of 128 bits. -/
def integerBound : Nat := 340282366920938463463374607431768211456

/-- The integer of some digits as a value.  Without digits, with others than those of the radix, or
where 128 bits hold the integer neither signed nor unsigned, it denotes no number. -/
def integerValue (radix : Nat) (negative : Bool) (digits : List Char) : Value :=
  match if digits.isEmpty then none else digitsBelow? radix integerBound digits with
  | some magnitude =>
      let i := signedBy negative magnitude
      if smallestInteger ≤ i then .ofInt i else .number none
  | none => .number none

/-- Whether the digits of a number are followed by a point or an exponent somewhere. -/
def hasPoint (behind : List Char) : Bool :=
  behind.any fun c => c == '.' || c == 'e' || c == 'E'

/-- Whether a number, given with and without underscores, begins with a needless zero. -/
def isPadded (text whole : List Char) : Bool :=
  text.head? == some '0' && whole.length != 1

/-- The value of a decimal number.  What has a point or an exponent is no integer, and is kept as
it was written.  In an integer the underscores stand between digits of any radix: with letters
among them, it is well formed and denotes no number. -/
def decimalValue? (text : List Char) : Option Value := do
  let (negative, rest) := readSign text
  let behind := rest.dropWhile Char.isDigit
  if hasPoint behind then
    let numeral ← Numeral.read? (← ungroup? Char.isDigit false rest)
    guard (!isPadded rest numeral.whole)
    return .number (if numeral.isFinite then some text else none)
  else
    guard (rest ≠ [] ∧ (behind.isEmpty ∨ behind.head? = some '_'))
    let digits ← ungroup? (isDigitOf 16) false rest
    guard (!isPadded rest digits)
    return integerValue 10 negative digits

/-- The value of the digits of a number behind the mark of a radix.  There may be no digits, but
then it denotes no number. -/
def radixValue? (radix : Nat) (text : List Char) : Option Value := do
  let digits ← ungroup? (isDigitOf radix) false text
  guard (digits.all (isDigitOf radix))
  return integerValue radix false digits

def number? : List Char → Option Value
  | '0' :: 'x' :: rest => radixValue? 16 rest
  | '0' :: 'o' :: rest => radixValue? 8 rest
  | '0' :: 'b' :: rest => radixValue? 2 rest
  | text => decimalValue? text

/-- Whether a text is the name of a number that is not finite, which may have a sign. -/
def isSpecial (text : List Char) : Bool :=
  (readSign text).2 == ['i', 'n', 'f'] || (readSign text).2 == ['n', 'a', 'n']

/-! ### Moments -/

def readMark? (mark : Char) : List Char → Option (List Char)
  | c :: rest => if c = mark then some rest else none
  | [] => none

/-- Read a day: four, two and two digits with hyphens between them. -/
def readDay? (text : List Char) : Option (List Char) := do
  let (century, rest) ← Timestamp.readPair? text
  let (year, rest) ← Timestamp.readPair? rest
  let (month, rest) ← Timestamp.readPair? (← readMark? '-' rest)
  let (day, rest) ← Timestamp.readPair? (← readMark? '-' rest)
  guard (CalendarDay.isValid ⟨century * 100 + year, month, day⟩)
  return rest

/-- Read the fraction of a second behind its point; it may be missing. -/
def readFraction? : List Char → Option (List Char)
  | '.' :: c :: rest => if c.isDigit then some (rest.dropWhile Char.isDigit) else none
  | ['.'] => none
  | rest => some rest

/-- Read the second of a minute behind its colon; it may be missing. -/
def readSecond? : List Char → Option (List Char)
  | ':' :: rest => do
      let (second, rest) ← Timestamp.readPair? rest
      guard (second ≤ 60)
      readFraction? rest
  | rest => some rest

def readTime? (text : List Char) : Option (List Char) := do
  let (hour, rest) ← Timestamp.readPair? text
  let (minute, rest) ← Timestamp.readPair? (← readMark? ':' rest)
  guard (hour < 24 ∧ minute < 60)
  readSecond? rest

/-- Read a zone; it may be missing. -/
def readZone? : List Char → Option (List Char)
  | [] => some []
  | c :: rest =>
      if c = 'Z' ∨ c = 'z' then some rest
      else do
        guard (c = '+' ∨ c = '-')
        let (hour, rest) ← Timestamp.readPair? rest
        let (minute, rest) ← Timestamp.readPair? (← readMark? ':' rest)
        guard (hour < 24 ∧ minute < 60)
        return rest

def isDay (text : List Char) : Bool :=
  readDay? text == some []

/-- Whether a text is a day, a time of day, or both, perhaps with a zone. -/
def isMoment (text : List Char) : Bool :=
  readTime? text == some [] ||
    match readDay? text with
    | some [] => true
    | some (c :: rest) =>
        (c == 'T' || c == 't' || c == ' ') && (readTime? rest).bind readZone? == some []
    | none => false

/-- The name of the only member of the record that stands for a moment. -/
def momentName : String := "$moment"

/-! ### All of them -/

/-- The value of a text without quotes. -/
def scalar? (text : List Char) : Option Value :=
  if text = "true".toList then some (.bool true)
  else if text = "false".toList then some (.bool false)
  else if isSpecial text then some (.number (some text))
  else if isMoment text then some (.ofMembers [(momentName, .ofText (String.ofList text))])
  else number? text

example : scalar? "-1_000".toList = some (.ofInt (-1000)) := by rfl
example : scalar? "1_f".toList = some (.number none) := by rfl
example : (scalar? "+_1".toList).isNone ∧ (scalar? "1__0".toList).isNone ∧
    (scalar? "01".toList).isNone := by decide
example : isMoment "1979-05-27 07:32:00.5Z".toList ∧ !isMoment "1979-02-29".toList := by decide

end TrafficMeter.Data.Toml
