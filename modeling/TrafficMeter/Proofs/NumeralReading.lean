/-
Module: TrafficMeter.Proofs.NumeralReading
Purpose: Numerals are read back as they were written: whole numbers in decimal, with a sign or
  without, and in hexadecimal with zeros in front.
Main exports: digitsValue?_toDigits, digitsBelow?_decimal, digitsValue?_hexPadded,
  length_hexPadded, Value.integerOfLiteral?_signedDecimal
-/
import Mathlib
import TrafficMeter.Data.Value

namespace TrafficMeter

namespace Text

/-! ### Runs of digits -/

variable {radix : Nat}

/-- A digit has the value that it was written for. -/
theorem digit?_digitChar {d : Nat} (small : d < radix) (letters : radix ≤ 16) :
    digit? radix d.digitChar = some d := by
  have all : ∀ d < 16, digit? 16 d.digitChar = some d := by decide
  have read := all d (by omega)
  simp only [digit?, Option.filter_eq_some_iff, decide_eq_true_eq] at read ⊢
  exact ⟨read.1, small⟩

/-- The last digit counts as it is, and those before it once more by the radix. -/
theorem digitsValue?_concat (digits : List Char) (c : Char) :
    digitsValue? radix (digits ++ [c]) =
      (digitsValue? radix digits).bind fun value => (digit? radix c).map (value * radix + ·) := by
  simp [digitsValue?, List.foldlM_append]

/-- The digits of a number have the number as their value. -/
theorem digitsValue?_toDigits (base : 1 < radix) (letters : radix ≤ 16) (n : Nat) :
    digitsValue? radix (Nat.toDigits radix n) = some n := by
  induction n using Nat.strongRecOn with
  | ind n ih =>
      rw [Nat.toDigits_eq_if base]
      split
      · next single => simp [digitsValue?, digit?_digitChar single letters]
      · next more =>
          have smaller : n / radix < n := Nat.div_lt_self (by omega) base
          have last : n % radix < radix := Nat.mod_lt n (by omega)
          rw [digitsValue?_concat, ih _ smaller, Option.bind_some, digit?_digitChar last letters,
            Option.map_some, Nat.div_add_mod']

/-- Zeros in front do not change the value. -/
theorem digitsValue?_zeros (count : Nat) (digits : List Char) (some : 0 < radix) :
    digitsValue? radix (List.replicate count '0' ++ digits) = digitsValue? radix digits := by
  have zero : digit? radix '0' = .some 0 := by simp [digit?, Option.filter, some]
  induction count with
  | zero => rfl
  | succ count ih =>
      rw [← ih]
      simp [digitsValue?, List.replicate_succ, zero]

/-- A hexadecimal number is read back, zeros in front or not. -/
theorem digitsValue?_hexPadded (width n : Nat) :
    digitsValue? 16 (hexPadded width n) = some n := by
  rw [hexPadded, digitsValue?_zeros _ _ (by decide), hex,
    digitsValue?_toDigits (by decide) (by decide)]

/-- It has just the width asked for if it fits there. -/
theorem length_hexPadded {width n : Nat} (positive : 0 < width) (fits : n < 16 ^ width) :
    (hexPadded width n).length = width := by
  have short : (hex n).length ≤ width := (Nat.length_toDigits_le_iff (by decide) positive).mpr fits
  simp only [hexPadded, List.length_append, List.length_replicate]
  omega

/-- A decimal number is read back below any bound that it keeps. -/
theorem digitsBelow?_decimal {n bound : Nat} (below : n < bound) :
    digitsBelow? 10 bound (decimal n) = some n := by
  rw [digitsBelow?_eq (by decide) (by omega), decimal,
    digitsValue?_toDigits (by decide) (by decide)]
  simp [Option.filter, below]

/-! ### Decimals -/

/-- It has digits only. -/
theorem isDigit_of_mem_decimal {n : Nat} {c : Char} (member : c ∈ decimal n) : c.isDigit = true :=
  Nat.isDigit_of_mem_toDigits (by decide) (by decide) member

theorem decimal_ne_nil (n : Nat) : decimal n ≠ [] :=
  Nat.toDigits_ne_nil

/-- Only zero has a zero in front. -/
theorem head?_decimal {n : Nat} (zero : (decimal n).head? = some '0') : n = 0 := by
  induction n using Nat.strongRecOn with
  | ind n ih =>
      rw [decimal, Nat.toDigits_eq_if (by decide)] at zero
      split at zero
      · simpa [Nat.digitChar_eq_zero] using zero
      · next more =>
          obtain ⟨first, others, front⟩ := List.exists_cons_of_ne_nil (decimal_ne_nil (n / 10))
          rw [← decimal, front] at zero
          have none : n / 10 = 0 := ih (n / 10) (by omega) (by rw [front]; exact zero)
          omega

end Text

/-! ### Integers as data -/

namespace Data.Value

open Text

/-- An integer of up to 64 bits is read back. -/
theorem integerOfLiteral?_signedDecimal {i : Int} (fits : i.natAbs < 18446744073709551616) :
    integerOfLiteral? (signedDecimal i) = some i := by
  by_cases negative : i < 0
  · have nonzero : i.natAbs ≠ 0 := by omega
    rw [signedDecimal, if_pos negative, integerOfLiteral?, digitsBelow?_decimal fits]
    simp only [Option.bind_eq_bind, Option.bind_some, if_neg nonzero, Option.some.injEq]
    omega
  · rw [signedDecimal, if_neg negative]
    have read := digitsBelow?_decimal fits
    cases digits : decimal i.natAbs with
    | nil => exact absurd digits (decimal_ne_nil _)
    | cons first others =>
        have unsigned : first ≠ '-' := by
          rintro rfl
          have digit : '-'.isDigit = true :=
            isDigit_of_mem_decimal (n := i.natAbs) (by simp [digits])
          exact absurd digit (by decide)
        rw [integerOfLiteral?.eq_def]
        split
        · next same => exact absurd (List.cons.inj same).1 unsigned
        · rw [← digits, read]
          simp [decimal_ne_nil]
          omega

/-- An integer is read back from its value, as far as the readers reach. -/
theorem integer?_ofInt {i : Int} (fits : i.natAbs < 18446744073709551616) :
    (ofInt i).integer? = some i :=
  integerOfLiteral?_signedDecimal fits

theorem integer?_ofNat {n : Nat} (fits : n < 18446744073709551616) :
    (ofNat n).integer? = some (n : Int) := by
  have unsigned : signedDecimal (n : Int) = decimal n := by simp [signedDecimal]
  rw [← integerOfLiteral?_signedDecimal (i := n) fits, unsigned]
  rfl

@[simp] theorem int64?_ofInt (i : Int64) : (ofInt i.toInt).int64? = some i := by
  have low := i.le_toInt
  have high := i.toInt_lt
  rw [int64?, integer?_ofInt (by omega)]
  simp
  omega

@[simp] theorem int32?_ofInt (i : Int32) : (ofInt i.toInt).int32? = some i := by
  have low := i.le_toInt
  have high := i.toInt_lt
  rw [int32?, integer?_ofInt (by omega)]
  simp
  omega

/-- A number is read back from its value below any bound that it keeps. -/
theorem natBelow?_ofNat {n bound : Nat} (fits : n < 18446744073709551616) (below : n < bound) :
    (ofNat n).natBelow? bound = some n := by
  rw [natBelow?, integer?_ofNat fits, Option.bind_eq_bind, Option.bind_some,
    if_pos ⟨by omega, by omega⟩, Int.toNat_natCast]

@[simp] theorem uint64?_ofNat (n : UInt64) : (ofNat n.toNat).uint64? = some n := by
  have below := n.toNat_lt
  rw [uint64?, natBelow?_ofNat below below, Option.map_some, UInt64.ofNat_toNat]

@[simp] theorem uint32?_ofNat (n : UInt32) : (ofNat n.toNat).uint32? = some n := by
  have below := n.toNat_lt
  rw [uint32?, natBelow?_ofNat (by omega) below, Option.map_some, UInt32.ofNat_toNat]

end Data.Value

end TrafficMeter
