/-
Module: TrafficMeter.Text.Numeral
Purpose: Numerals: digits in a radix, reading them with an optional plus sign and a bound, and
  writing whole numbers in decimal and hexadecimal.
Main exports: digit?, digitsValue?, digitsBelow?, readUnsigned?, decimal, signedDecimal, hex,
  hexPadded
-/

namespace TrafficMeter.Text

/-- The value of a character as a digit of `radix`; the letters count from ten on, in either
case. -/
def digit? (radix : Nat) (c : Char) : Option Nat :=
  let value? :=
    if '0' ≤ c ∧ c ≤ '9' then some (c.toNat - '0'.toNat)
    else if 'a' ≤ c ∧ c ≤ 'z' then some (c.toNat - 'a'.toNat + 10)
    else if 'A' ≤ c ∧ c ≤ 'Z' then some (c.toNat - 'A'.toNat + 10)
    else none
  value?.filter (· < radix)

/-- The value of a run of digits, most significant first; the empty run has the value zero. -/
def digitsValue? (radix : Nat) (digits : List Char) : Option Nat :=
  digits.foldlM (fun value c => (digit? radix c).map (value * radix + ·)) 0

/-- The value of a run of digits, if it stays below a bound.  No intermediate value exceeds the
last one, so a long run is given up as soon as it reaches the bound. -/
def digitsBelow? (radix bound : Nat) (digits : List Char) : Option Nat :=
  digits.foldlM
    (fun value c => ((digit? radix c).map (value * radix + ·)).filter (· < bound)) 0

/-- Further digits do not take a value that has reached a bound below it again. -/
theorem bound_le_of_foldlM {radix bound : Nat} (positive : 0 < radix) {digits : List Char}
    {value result : Nat} (reached : bound ≤ value)
    (read : digits.foldlM (fun v c => (digit? radix c).map (v * radix + ·)) value = some result) :
    bound ≤ result := by
  induction digits generalizing value with
  | nil =>
    simp only [List.foldlM_nil, Option.pure_def, Option.some.injEq] at read
    omega
  | cons c rest ih =>
    rw [List.foldlM_cons] at read
    cases digit : digit? radix c with
    | none => simp [digit] at read
    | some d =>
      simp only [digit, Option.map_some, Option.bind_eq_bind, Option.bind_some] at read
      have grown : value ≤ value * radix := Nat.le_mul_of_pos_right value positive
      exact ih (by omega) read

/-- The bounded reading of digits is the plain one where that stays below the bound. -/
theorem digitsBelow?_eq {radix bound : Nat} (positive : 0 < radix) (room : 0 < bound)
    (digits : List Char) :
    digitsBelow? radix bound digits = (digitsValue? radix digits).filter (· < bound) := by
  unfold digitsBelow? digitsValue?
  generalize 0 = value at room ⊢
  induction digits generalizing value with
  | nil => simp [Option.filter, room]
  | cons c rest ih =>
    rw [List.foldlM_cons, List.foldlM_cons]
    cases digit : digit? radix c with
    | none => simp [Option.filter]
    | some d =>
      by_cases below : value * radix + d < bound
      · simpa [Option.filter, below] using ih _ below
      · have stays : ∀ result, rest.foldlM
            (fun v c => (digit? radix c).map (v * radix + ·)) (value * radix + d) = some result →
            ¬ result < bound := fun result read => by
          have := bound_le_of_foldlM positive (Nat.le_of_not_lt below) read
          omega
        cases read : rest.foldlM
            (fun v c => (digit? radix c).map (v * radix + ·)) (value * radix + d) with
        | none => simp [Option.filter, below, read]
        | some result => simp [Option.filter, below, read, stays result read]

/-- Read a whole text as an unsigned numeral below `bound`: one optional plus sign, then at least
one digit, leading zeros allowed. -/
def readUnsigned? (radix bound : Nat) (text : List Char) : Option Nat :=
  let digits := match text with
    | '+' :: rest => rest
    | other => other
  if digits.isEmpty then none
  else digitsBelow? radix bound digits

/-- The decimal digits of a number, without leading zeros. -/
def decimal (n : Nat) : List Char :=
  Nat.toDigits 10 n

/-- The decimal digits of an integer, a negative one behind a minus sign. -/
def signedDecimal (i : Int) : List Char :=
  if i < 0 then '-' :: decimal i.natAbs else decimal i.natAbs

/-- The lower-case hexadecimal digits of a number, without leading zeros. -/
def hex (n : Nat) : List Char :=
  Nat.toDigits 16 n

/-- The lower-case hexadecimal digits of a number, filled up with zeros to a width. -/
def hexPadded (width n : Nat) : List Char :=
  let digits := hex n
  List.replicate (width - digits.length) '0' ++ digits

/-- The decimal digits of a number, filled up with zeros to a width. -/
def decimalPadded (width n : Nat) : List Char :=
  let digits := decimal n
  List.replicate (width - digits.length) '0' ++ digits

example : readUnsigned? 16 256 "+0fF".toList = some 255 := by decide
example : readUnsigned? 10 65536 "65536".toList = none := by decide
example : readUnsigned? 10 10 "+".toList = none := by decide

end TrafficMeter.Text
