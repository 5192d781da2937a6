/-
Module: TrafficMeter.Proofs.JsonReading
Purpose: What is written as JSON is read back.  Every character of a text survives being escaped,
  a number ends where its literal does, and the tokens of lists and records are found where they
  were put, whatever follows.
Main exports: Json.Reads, Json.IsNumeral, Json.Proper, Json.reads_chars, Json.ofBytes?_write
-/
import Mathlib
import TrafficMeter.Data.Json.Printer
import TrafficMeter.Data.Json.Reader
import TrafficMeter.Proofs.NumeralReading

namespace TrafficMeter.Data.Json

open Text

/-- A reader gives a value and leaves the rest. -/
def Reads {α : Type} {input : List Symbol} (result : Option (α × Rest input)) (value : α)
    (rest : List Symbol) : Prop :=
  ∃ shorter, result = some (value, ⟨rest, shorter⟩)

variable {input rest inside behind : List Symbol}

/-! ### Single characters -/

theorem skipBlanks_cons {c : Char} (visible : isBlank (some c) = false) :
    skipBlanks (some c :: rest) = some c :: rest := by
  simp [skipBlanks, visible]

/-- A character that is expected is taken. -/
theorem expect?_self {c : Char} (visible : isBlank (some c) = false) (rest : List Symbol) :
    ∃ shorter, expect? c (some c :: rest) = some ⟨rest, shorter⟩ := by
  rw [expect?]
  split
  · next first others found =>
      rw [skipBlanks_cons visible] at found
      cases found
      exact ⟨by simp, if_pos rfl⟩
  · next none => exact absurd (skipBlanks_cons visible) (none _ _)

/-- Another character is not. -/
theorem expect?_eq_none {c : Char} (other : ∀ rest, skipBlanks input ≠ some c :: rest) :
    expect? c input = none := by
  rw [expect?]
  split
  · next first others found =>
      refine if_neg fun same => ?_
      subst same
      exact other others found
  · rfl

/-- A sign in front of which another one stands is not there. -/
theorem expect?_other {c other : Char} (visible : isBlank (some other) = false) (apart : other ≠ c)
    (rest : List Symbol) : expect? c (some other :: rest) = none := by
  refine expect?_eq_none fun others front => ?_
  rw [skipBlanks_cons visible] at front
  cases front
  exact apart rfl

/-! ### Strings -/

/-- The inside of a string literal denotes characters, up to its closing quote. -/
def Denotes (input : List Symbol) (content : List Char) (rest : List Symbol) : Prop :=
  ∃ pieces, Reads (readPieces input) pieces rest ∧ charsOf? pieces = some content

/-- The closing quotation mark ends a text. -/
theorem denotes_quote : Denotes (some '"' :: rest) [] rest :=
  ⟨[], ⟨_, by rw [readPieces]⟩, rfl⟩

/-- A backslash and one of the letters of the escapes stand for one character. -/
theorem denotes_letter {letter c : Char} {content : List Char} (escaped : escaped? letter = some c)
    (tail : Denotes input content rest) :
    Denotes (some '\\' :: some letter :: input) (c :: content) rest := by
  obtain ⟨pieces, ⟨shorter, read⟩, denoted⟩ := tail
  have other : letter ≠ 'u' := by
    rintro rfl
    cases escaped
  refine ⟨.char c :: pieces, ⟨?_, ?_⟩, ?_⟩
  · simp only [List.length_cons]
    omega
  · rw [readPieces, escaped, read]
    simp [other]
  · simp [charsOf?, denoted]

/-- A code unit below the surrogates is a character by itself. -/
theorem charsOf?_unit {value : Nat} (whole : value < 0xD800) (pieces : List Piece) :
    charsOf? (.unit value :: pieces) = (charsOf? pieces).map (Char.ofNat value :: ·) := by
  have notHigh : isHighHalf value = false := by
    simp only [isHighHalf, Bool.and_eq_false_imp, decide_eq_true_eq, decide_eq_false_iff_not]
    omega
  have notLow : isLowHalf value = false := by
    simp only [isLowHalf, Bool.and_eq_false_imp, decide_eq_true_eq, decide_eq_false_iff_not]
    omega
  rw [charsOf?.eq_def]
  split <;> simp_all

/-- So a backslash, a `u` and four hexadecimal digits stand for that character. -/
theorem denotes_unit {a b c d : Char} {value : Nat} {content : List Char}
    (digits : digitsValue? 16 [a, b, c, d] = some value) (whole : value < 0xD800)
    (tail : Denotes input content rest) :
    Denotes (some '\\' :: some 'u' :: some a :: some b :: some c :: some d :: input)
      (Char.ofNat value :: content) rest := by
  obtain ⟨pieces, ⟨shorter, read⟩, denoted⟩ := tail
  refine ⟨.unit value :: pieces, ⟨?_, ?_⟩, ?_⟩
  · simp only [List.length_cons]
    omega
  · rw [readPieces, digits, read]
  · rw [charsOf?_unit whole, denoted]
    rfl

/-- Any other character that may be shown stands for itself. -/
theorem denotes_plain {c : Char} {content : List Char} (quote : c ≠ '"') (backslash : c ≠ '\\')
    (visible : ¬ c.toNat < 0x20) (tail : Denotes input content rest) :
    Denotes (some c :: input) (c :: content) rest := by
  obtain ⟨pieces, ⟨shorter, read⟩, denoted⟩ := tail
  refine ⟨.char c :: pieces, ⟨?_, ?_⟩, ?_⟩
  · simp only [List.length_cons]
    omega
  · rw [readPieces, if_neg (not_or_intro backslash visible), read]
    all_goals simp [quote, backslash]
  · simp [charsOf?, denoted]

/-- A character is read back as it was escaped. -/
theorem denotes_escape (c : Char) {content : List Char} (tail : Denotes input content rest) :
    Denotes ((escape c).map some ++ input) (c :: content) rest := by
  rw [escape]
  split
  · next quote => exact denotes_letter (by rw [quote]; rfl) tail
  split
  · next backslash => exact denotes_letter (by rw [backslash]; rfl) tail
  split
  · next backspace => exact denotes_letter (by rw [backspace]; rfl) tail
  split
  · next tab => exact denotes_letter (by rw [tab]; rfl) tail
  split
  · next newline => exact denotes_letter (by rw [newline]; rfl) tail
  split
  · next feed => exact denotes_letter (by rw [feed]; rfl) tail
  split
  · next carriage => exact denotes_letter (by rw [carriage]; rfl) tail
  split
  · next control =>
      have four : (hexPadded 4 c.toNat).length = 4 := length_hexPadded (by decide) (by omega)
      have value := digitsValue?_hexPadded 4 c.toNat
      match digits : hexPadded 4 c.toNat, four with
      | [a, b, d, e], _ =>
          rw [digits] at value
          simpa using denotes_unit value (by omega) tail
  · next quote backslash _ _ _ _ _ control => exact denotes_plain quote backslash control tail

/-- The inside of a string literal denotes what was written. -/
theorem denotes_flatMap_escape (content : List Char) (rest : List Symbol) :
    Denotes ((content.flatMap escape).map some ++ some '"' :: rest) content rest := by
  induction content with
  | nil => exact denotes_quote
  | cons c others ih =>
      rw [List.flatMap_cons, List.map_append, List.append_assoc]
      exact denotes_escape c ih

/-- A text is read back from its literal. -/
theorem reads_literal (content : String) (rest : List Symbol) : ∃ pieces,
    Reads (readPieces ((content.toList.flatMap escape).map some ++ some '"' :: rest)) pieces rest ∧
      textOf? pieces = some content := by
  obtain ⟨pieces, read, denoted⟩ := denotes_flatMap_escape content.toList rest
  exact ⟨pieces, read, by rw [textOf?, denoted, Option.map_some, String.ofList_toList]⟩

/-- The symbols of a literal, with the quotation marks told from what stands between them. -/
theorem map_literal (content : String) (rest : List Symbol) :
    (literal (some content)).map some ++ rest =
      some '"' :: ((content.toList.flatMap escape).map some ++ some '"' :: rest) := by
  simp [literal]

/-- So is the name of a member, with the colon behind it. -/
theorem reads_name (name : String) :
    Reads (readName ((literal (some name)).map some ++ some ':' :: rest)) (some name) rest := by
  obtain ⟨pieces, ⟨_, read⟩, denoted⟩ := reads_literal name (some ':' :: rest)
  obtain ⟨_, opened⟩ := expect?_self (c := '"') (by decide)
    ((name.toList.flatMap escape).map some ++ some '"' :: some ':' :: rest)
  obtain ⟨_, closed⟩ := expect?_self (c := ':') (by decide) rest
  rw [map_literal]
  refine ⟨?_, ?_⟩
  · simp
    omega
  · rw [readName, opened]
    simp only [read, closed, denoted]

/-! ### Numbers -/

/-- A symbol that may stand in a number. -/
def isNumeralSymbol : Symbol → Bool
  | some c => c.isDigit || c == '-' || c == '+' || c == '.' || c == 'e' || c == 'E'
  | none => false

/-- What follows does not go on with a number. -/
def Ends (rest : List Symbol) : Prop :=
  ∀ symbol ∈ rest.head?, isNumeralSymbol symbol = false

/-- Nothing of a number stands where a number has ended. -/
theorem leadingDigits_of_ends (ends : Ends rest) : leadingDigits rest = [] := by
  cases rest with
  | nil => rfl
  | cons symbol others =>
      have other := ends symbol rfl
      cases symbol with
      | none => rfl
      | some c =>
          have digit : c.isDigit = false := by simp_all [isNumeralSymbol]
          simp [leadingDigits, digit]

/-- What follows a number does not add to its digits. -/
theorem leadingDigits_append (ends : Ends rest) (input : List Symbol) :
    leadingDigits (input ++ rest) = leadingDigits input := by
  induction input with
  | nil => exact leadingDigits_of_ends ends
  | cons symbol others ih =>
      cases symbol with
      | none => rfl
      | some c => simp only [List.cons_append, leadingDigits, ih]

theorem length_leadingDigits (input : List Symbol) :
    (leadingDigits input).length ≤ input.length := by
  induction input with
  | nil => exact Nat.le_refl 0
  | cons symbol others ih =>
      cases symbol with
      | none => exact Nat.zero_le _
      | some c =>
          rw [leadingDigits]
          split
          · simpa using ih
          · exact Nat.zero_le _

/-- Without a point there is no fraction, which is no error. -/
theorem fraction?_of_other (other : input.head? ≠ some (some '.')) : fraction? input = some [] := by
  rw [fraction?.eq_def]
  split
  · simp at other
  · rfl

/-- What follows a number does not add to its fraction. -/
theorem fraction?_append (ends : Ends rest) (input : List Symbol) :
    fraction? (input ++ rest) = fraction? input := by
  by_cases dot : input.head? = some (some '.')
  · obtain ⟨others, rfl⟩ := List.head?_eq_some_iff.mp dot
    simp only [List.cons_append, fraction?, leadingDigits_append ends]
  · rw [fraction?_of_other dot, fraction?_of_other]
    cases input with
    | nil =>
        intro found
        simpa [isNumeralSymbol] using ends _ found
    | cons symbol others => exact dot

/-- Without its letter there is no exponent, which is no error either. -/
theorem exponent?_of_other (other : ∀ e, input.head? = some (some e) → e ≠ 'e' ∧ e ≠ 'E') :
    exponent? input = some [] := by
  rw [exponent?.eq_def]
  split
  · next e others => simp [other e rfl]
  · rfl

/-- The sign at the front, one of the given ones. -/
def signAmong (signs : List Char) : List Symbol → List Char
  | some c :: _ => if c ∈ signs then [c] else []
  | _ => []

theorem length_signAmong (signs : List Char) (input : List Symbol) :
    (signAmong signs input).length ≤ input.length := by
  rw [signAmong.eq_def]
  split
  · split <;> simp
  · simp

/-- What follows a number is not taken for a sign within it. -/
theorem signAmong_append {signs : List Char}
    (numeral : ∀ c ∈ signs, isNumeralSymbol (some c) = true) (ends : Ends rest)
    (input : List Symbol) :
    signAmong signs (input ++ rest) = signAmong signs input := by
  cases input with
  | cons symbol others => cases symbol <;> rfl
  | nil =>
      rw [List.nil_append, signAmong.eq_def]
      split
      · next c others =>
          have other : isNumeralSymbol (some c) = false := ends _ rfl
          rw [if_neg fun member => by simp [numeral c member] at other]
          rfl
      · rfl

/-- Behind its letter an exponent has a sign, which may be missing, and digits, which may not. -/
theorem exponent?_mark {e : Char} (mark : e = 'e' ∨ e = 'E') :
    exponent? (some e :: input) =
      let sign := signAmong ['+', '-'] input
      let digits := leadingDigits (input.drop sign.length)
      if digits.isEmpty then none else some (e :: sign ++ digits) := by
  simp only [exponent?, if_pos mark]
  split
  · rfl
  · rfl
  · next plus minus =>
      have unsigned : signAmong ['+', '-'] input = [] := by
        rw [signAmong.eq_def]
        split
        · next c others =>
            rw [if_neg]
            simp_all
        · rfl
      simp [unsigned]

/-- What follows a number does not add to its exponent. -/
theorem exponent?_append (ends : Ends rest) (input : List Symbol) :
    exponent? (input ++ rest) = exponent? input := by
  by_cases marked : ∃ e others, input = some e :: others ∧ (e = 'e' ∨ e = 'E')
  · obtain ⟨e, others, rfl, mark⟩ := marked
    have sign : signAmong ['+', '-'] (others ++ rest) = signAmong ['+', '-'] others :=
      signAmong_append (by simp [isNumeralSymbol]) ends others
    simp only [List.cons_append, exponent?_mark mark, sign,
      List.drop_append_of_le_length (length_signAmong _ _), leadingDigits_append ends]
  · rw [exponent?_of_other, exponent?_of_other]
    · rintro e found
      obtain ⟨others, rfl⟩ := List.head?_eq_some_iff.mp found
      exact not_or.mp fun mark => marked ⟨e, others, rfl, mark⟩
    · rintro e found
      cases input with
      | nil =>
          have other := ends _ found
          simp_all [isNumeralSymbol]
      | cons symbol others =>
          cases found
          exact not_or.mp fun mark => marked ⟨e, others, rfl, mark⟩

theorem length_fraction? {fraction : List Char} (read : fraction? input = some fraction) :
    fraction.length ≤ input.length := by
  rw [fraction?.eq_def] at read
  split at read
  · next others =>
      dsimp only at read
      split at read
      · cases read
      · cases read
        simpa using length_leadingDigits others
  · cases read
    exact Nat.zero_le _

/-- The part of a number behind its sign. -/
def unsignedLiteral? (input : List Symbol) : Option (List Char) := do
  let whole := leadingDigits input
  guard (whole ≠ [] ∧ (whole.length = 1 ∨ whole.head? ≠ some '0'))
  let behind := input.drop whole.length
  let fraction ← fraction? behind
  let exponent ← exponent? (behind.drop fraction.length)
  return whole ++ fraction ++ exponent

theorem numberLiteral?_minus (input : List Symbol) :
    numberLiteral? (some '-' :: input) = (unsignedLiteral? input).map ('-' :: ·) := by
  simp [numberLiteral?, unsignedLiteral?, Option.map_bind]

/-- Without a minus the number begins with its digits. -/
theorem numberLiteral?_unsigned (unsigned : input.head? ≠ some (some '-')) :
    numberLiteral? input = unsignedLiteral? input := by
  rw [numberLiteral?]
  · rfl
  · rintro others rfl
    exact unsigned rfl

/-- A number has at least one digit. -/
theorem unsignedLiteral?_of_none (none : leadingDigits input = []) :
    unsignedLiteral? input = .none := by
  simp only [unsignedLiteral?, none, guard]
  rfl

/-- A number is read alike whatever follows it, if that cannot be part of it. -/
theorem unsignedLiteral?_append (ends : Ends rest) (input : List Symbol) :
    unsignedLiteral? (input ++ rest) = unsignedLiteral? input := by
  simp only [unsignedLiteral?, leadingDigits_append ends,
    List.drop_append_of_le_length (length_leadingDigits _), fraction?_append ends]
  cases read : fraction? (input.drop (leadingDigits input).length) with
  | none => rfl
  | some fraction =>
      simp only [Option.bind_eq_bind, Option.bind_some,
        List.drop_append_of_le_length (length_fraction? read), exponent?_append ends]

/-- A number is the same whatever follows that does not go on with it. -/
theorem numberLiteral?_append (ends : Ends rest) (input : List Symbol) :
    numberLiteral? (input ++ rest) = numberLiteral? input := by
  by_cases minus : input.head? = some (some '-')
  · obtain ⟨others, rfl⟩ := List.head?_eq_some_iff.mp minus
    rw [List.cons_append, numberLiteral?_minus, numberLiteral?_minus, unsignedLiteral?_append ends]
  · rw [numberLiteral?_unsigned minus, numberLiteral?_unsigned, unsignedLiteral?_append ends]
    cases input with
    | nil =>
        intro found
        simpa [isNumeralSymbol] using ends _ found
    | cons symbol others => exact minus

/-- The characters are those of a number. -/
def IsNumeral (literal : List Char) : Prop :=
  numberLiteral? (literal.map some) = some literal

/-- Digits alone are read to their end. -/
theorem leadingDigits_of_digits {digits : List Char} (all : ∀ c ∈ digits, c.isDigit = true) :
    leadingDigits (digits.map some) = digits := by
  induction digits with
  | nil => rfl
  | cons c others ih =>
      obtain ⟨first, later⟩ := List.forall_mem_cons.mp all
      rw [List.map_cons, leadingDigits, if_pos first, ih later]

/-- The decimal digits of a number make a literal, as they do not begin with a zero that counts for
nothing. -/
theorem unsignedLiteral?_decimal (n : Nat) :
    unsignedLiteral? ((decimal n).map some) = some (decimal n) := by
  have whole : leadingDigits ((decimal n).map some) = decimal n :=
    leadingDigits_of_digits fun _ => isDigit_of_mem_decimal
  have shape : decimal n ≠ [] ∧ ((decimal n).length = 1 ∨ (decimal n).head? ≠ some '0') := by
    refine ⟨decimal_ne_nil n, ?_⟩
    by_cases zero : (decimal n).head? = some '0'
    · rw [head?_decimal zero]
      exact .inl rfl
    · exact .inr zero
  have behind : ((decimal n).map some).drop (decimal n).length = ([] : List Symbol) := by simp
  simp [unsignedLiteral?, whole, guard, shape, behind, fraction?, exponent?]

/-- So they may stand for a number in a text. -/
theorem isNumeral_decimal (n : Nat) : IsNumeral (decimal n) := by
  have unsigned : ((decimal n).map some).head? ≠ some (some '-') := by
    intro minus
    have member : '-' ∈ decimal n := by
      have front := List.mem_of_mem_head? minus
      simpa using front
    exact absurd (isDigit_of_mem_decimal member) (by decide)
  rw [IsNumeral, numberLiteral?_unsigned unsigned, unsignedLiteral?_decimal]

/-- The decimal digits of an integer may do so with a minus in front of them. -/
theorem isNumeral_signedDecimal (i : Int) : IsNumeral (signedDecimal i) := by
  rw [signedDecimal]
  split
  · rw [IsNumeral, List.map_cons, numberLiteral?_minus, unsignedLiteral?_decimal, Option.map_some]
  · exact isNumeral_decimal _

/-- A number begins with a digit or a minus sign. -/
theorem IsNumeral.eq_cons {literal : List Char} (numeral : IsNumeral literal) :
    ∃ first others, literal = first :: others ∧ (first = '-' ∨ first.isDigit = true) := by
  cases literal with
  | nil => cases numeral
  | cons first others =>
      refine ⟨first, others, rfl, ?_⟩
      by_cases minus : first = '-'
      · exact .inl minus
      · by_cases digit : first.isDigit = true
        · exact .inr digit
        · have unsigned : ((first :: others).map some).head? ≠ some (some '-') := by
            simpa using minus
          rw [IsNumeral, numberLiteral?_unsigned unsigned] at numeral
          have none : leadingDigits ((first :: others).map some) = [] := by
            simp [leadingDigits, digit]
          rw [unsignedLiteral?_of_none none] at numeral
          cases numeral

/-! ### Values -/

/-- A quotation mark begins a text. -/
theorem reads_text {content : String} {pieces : List Piece}
    (front : skipBlanks input = some '"' :: inside)
    (read : Reads (readPieces inside) pieces rest) (denoted : textOf? pieces = some content) :
    Reads (readValue input) (.text (some content)) rest := by
  obtain ⟨shorter, read⟩ := read
  have length := length_lt_of_skipBlanks front
  refine ⟨by omega, ?_⟩
  rw [readValue]
  split
  · next tail found =>
      cases front.symm.trans found
      simp only [read, denoted]
  all_goals simp_all

/-- A square bracket begins a list. -/
theorem reads_list {items : List Value} (front : skipBlanks input = some '[' :: inside)
    (read : Reads (readItems inside) items rest) :
    Reads (readValue input) (.list items) rest := by
  obtain ⟨shorter, read⟩ := read
  have length := length_lt_of_skipBlanks front
  refine ⟨by omega, ?_⟩
  rw [readValue]
  split
  · simp_all
  · next tail found =>
      cases front.symm.trans found
      simp only [read]
  all_goals simp_all

/-- A brace begins a record. -/
theorem reads_record {members : List (Option String × Value)}
    (front : skipBlanks input = some '{' :: inside)
    (read : Reads (readMembers inside) members rest) :
    Reads (readValue input) (.record members) rest := by
  obtain ⟨shorter, read⟩ := read
  have length := length_lt_of_skipBlanks front
  refine ⟨by omega, ?_⟩
  rw [readValue]
  split
  · simp_all
  · simp_all
  · next tail found =>
      cases front.symm.trans found
      simp only [read]
  all_goals simp_all

/-- The words for values without parts. -/
theorem reads_word {value : Value} (word : value = .null ∨ ∃ truth, value = .bool truth)
    (front : skipBlanks input = (chars value).map some ++ rest) :
    Reads (readValue input) value rest := by
  rcases word with rfl | ⟨_ | _, rfl⟩
  all_goals
    rw [chars] at front
    have length := length_lt_of_skipBlanks front
    refine ⟨by simp at length; omega, ?_⟩
    rw [readValue]
    split <;> simp_all

/-- A literal is read whole where something follows that cannot go on with it. -/
theorem reads_number {literal : List Char} (numeral : IsNumeral literal) (ends : Ends rest)
    (front : skipBlanks input = literal.map some ++ rest) :
    Reads (readValue input) (.number (some literal)) rest := by
  obtain ⟨first, others, rfl, begins⟩ := numeral.eq_cons
  rw [List.map_cons, List.cons_append] at front
  have length := length_lt_of_skipBlanks front
  have read : numberLiteral? (some first :: (others.map some ++ rest)) = some (first :: others) :=
    (numberLiteral?_append ends _).trans numeral
  have apart : '"' ≠ first ∧ '[' ≠ first ∧ '{' ≠ first ∧ 't' ≠ first ∧ 'f' ≠ first ∧
      'n' ≠ first := by
    refine ⟨?_, ?_, ?_, ?_, ?_, ?_⟩ <;> rintro rfl <;> revert begins <;> decide
  refine ⟨by simp at length; omega, ?_⟩
  rw [readValue]
  split
  case h_7 symbol tail _ _ _ _ _ _ found =>
    cases front.symm.trans found
    simp only [read]
    simp
  all_goals simp_all

/-! ### Lists and records -/

/-- A value does not begin with a closing bracket. -/
theorem readValue_of_bracket (front : skipBlanks input = some ']' :: rest) :
    readValue input = none := by
  have none : numberLiteral? (some ']' :: rest) = none := by
    rw [numberLiteral?_unsigned (by simp), unsignedLiteral?_of_none]
    simp [leadingDigits]
  rw [readValue]
  split
  case h_7 symbol tail _ _ _ _ _ _ found =>
    cases front.symm.trans found
    simp only [none]
  all_goals simp_all

/-- Nor does a name begin with a closing brace. -/
theorem readName_of_brace (front : skipBlanks input = some '}' :: rest) :
    readName input = none := by
  have none : expect? '"' input = none := expect?_eq_none fun others found => by
    cases front.symm.trans found
  rw [readName, none]

/-- A list may end where it begins. -/
theorem reads_items_nil : Reads (readItems (some ']' :: rest)) [] rest := by
  obtain ⟨shorter, closed⟩ := expect?_self (c := ']') (by decide) rest
  exact ⟨shorter, by rw [readItems, closed]⟩

theorem reads_items {items : List Value} (read : Reads (readMoreItems input) items rest) :
    Reads (readItems input) items rest := by
  obtain ⟨shorter, read⟩ := read
  have opens : expect? ']' input = none := by
    refine expect?_eq_none fun others front => ?_
    rw [readMoreItems, readValue_of_bracket front] at read
    cases read
  exact ⟨shorter, by rw [readItems, opens]; exact read⟩

/-- The item in front of the closing bracket is the last one. -/
theorem reads_last_item {item : Value} (read : Reads (readValue input) item (some ']' :: rest)) :
    Reads (readMoreItems input) [item] rest := by
  obtain ⟨shorter, read⟩ := read
  obtain ⟨_, closed⟩ := expect?_self (c := ']') (by decide) rest
  refine ⟨by simp at shorter; omega, ?_⟩
  rw [readMoreItems, read]
  simp only [closed]

/-- A comma leads from an item to the next one; there is none behind the last. -/
theorem reads_more_items {item : Value} {items : List Value}
    (read : Reads (readValue input) item (some ',' :: behind))
    (more : Reads (readMoreItems behind) items rest) :
    Reads (readMoreItems input) (item :: items) rest := by
  obtain ⟨shorter, read⟩ := read
  obtain ⟨shorter', more⟩ := more
  obtain ⟨_, comma⟩ := expect?_self (c := ',') (by decide) behind
  have goesOn : expect? ']' (some ',' :: behind) = none :=
    expect?_other (by decide) (by decide) behind
  refine ⟨by simp at shorter; omega, ?_⟩
  rw [readMoreItems, read]
  simp only [goesOn, comma, more]

theorem reads_members_nil : Reads (readMembers (some '}' :: rest)) [] rest := by
  obtain ⟨shorter, closed⟩ := expect?_self (c := '}') (by decide) rest
  exact ⟨shorter, by rw [readMembers, closed]⟩

theorem reads_members {members : List (Option String × Value)}
    (read : Reads (readMoreMembers input) members rest) :
    Reads (readMembers input) members rest := by
  obtain ⟨shorter, read⟩ := read
  have opens : expect? '}' input = none := by
    refine expect?_eq_none fun others front => ?_
    rw [readMoreMembers, readName_of_brace front] at read
    cases read
  exact ⟨shorter, by rw [readMembers, opens]; exact read⟩

/-- The member in front of the closing brace is the last one. -/
theorem reads_last_member {name : Option String} {value : Value}
    (named : Reads (readName input) name inside)
    (read : Reads (readValue inside) value (some '}' :: rest)) :
    Reads (readMoreMembers input) [(name, value)] rest := by
  obtain ⟨shorter, named⟩ := named
  obtain ⟨shorter', read⟩ := read
  obtain ⟨_, closed⟩ := expect?_self (c := '}') (by decide) rest
  refine ⟨by simp at shorter'; omega, ?_⟩
  rw [readMoreMembers, named]
  simp only [read, closed]

/-- A comma leads from a member to the next one. -/
theorem reads_more_members {name : Option String} {value : Value}
    {members : List (Option String × Value)} (named : Reads (readName input) name inside)
    (read : Reads (readValue inside) value (some ',' :: behind))
    (more : Reads (readMoreMembers behind) members rest) :
    Reads (readMoreMembers input) ((name, value) :: members) rest := by
  obtain ⟨shorter, named⟩ := named
  obtain ⟨shorter', read⟩ := read
  obtain ⟨shorter'', more⟩ := more
  obtain ⟨_, comma⟩ := expect?_self (c := ',') (by decide) behind
  have goesOn : expect? '}' (some ',' :: behind) = none :=
    expect?_other (by decide) (by decide) behind
  refine ⟨by simp at shorter'; omega, ?_⟩
  rw [readMoreMembers, named]
  simp only [read, goesOn, comma, more]

/-! ### Whole values -/

mutual

/-- A value that says everything: its numbers are numbers, and its texts and names are texts. -/
def Proper : Value → Prop
  | .number literal => ∃ digits, literal = some digits ∧ IsNumeral digits
  | .text content => content.isSome = true
  | .list items => AllProper items
  | .record members => AllMembersProper members
  | .null | .bool _ => True

def AllProper : List Value → Prop
  | [] => True
  | item :: others => Proper item ∧ AllProper others

def AllMembersProper : List (Option String × Value) → Prop
  | [] => True
  | (name, value) :: others => name.isSome = true ∧ Proper value ∧ AllMembersProper others

end

theorem ends_nil : Ends [] := by
  rintro symbol ⟨⟩

theorem ends_cons {c : Char} (apart : isNumeralSymbol (some c) = false) (rest : List Symbol) :
    Ends (some c :: rest) := by
  rintro symbol ⟨⟩
  exact apart

/-- A number does not begin with a blank. -/
theorem skipBlanks_numeral {literal : List Char} (numeral : IsNumeral literal) :
    skipBlanks (literal.map some ++ rest) = literal.map some ++ rest := by
  obtain ⟨first, others, rfl, begins⟩ := numeral.eq_cons
  refine skipBlanks_cons ?_
  rcases begins with rfl | digit
  · rfl
  · simp only [isBlank, Bool.or_eq_false_iff, beq_eq_false_iff_ne, ne_eq, Option.some.injEq]
    refine ⟨⟨⟨?_, ?_⟩, ?_⟩, ?_⟩ <;> rintro rfl <;> revert digit <;> decide

mutual

/-- A value is read back from what is written for it, whatever follows. -/
theorem reads_chars : ∀ (value : Value) {rest : List Symbol}, Proper value → Ends rest →
    Reads (readValue ((chars value).map some ++ rest)) value rest
  | .null, _, _, _ => reads_word (.inl rfl) (by rw [chars]; exact skipBlanks_cons (by decide))
  | .bool true, _, _, _ =>
      reads_word (.inr ⟨true, rfl⟩) (by rw [chars]; exact skipBlanks_cons (by decide))
  | .bool false, _, _, _ =>
      reads_word (.inr ⟨false, rfl⟩) (by rw [chars]; exact skipBlanks_cons (by decide))
  | .number literal, rest, proper, ends => by
      rw [Proper] at proper
      obtain ⟨digits, rfl, isNumeral⟩ := proper
      exact reads_number isNumeral ends (by rw [chars]; exact skipBlanks_numeral isNumeral)
  | .text content, rest, proper, _ => by
      rw [Proper] at proper
      obtain ⟨content, rfl⟩ := Option.isSome_iff_exists.mp proper
      obtain ⟨pieces, read, denoted⟩ := reads_literal content rest
      refine reads_text ?_ read denoted
      rw [chars, map_literal]
      exact skipBlanks_cons (by decide)
  | .list [], rest, _, _ => by
      refine reads_list ?_ reads_items_nil
      rw [chars, itemsChars]
      exact skipBlanks_cons (by decide)
  | .list (item :: others), rest, proper, _ => by
      rw [Proper] at proper
      have read := reads_itemsChars (item :: others) rest (by simp) proper
      refine reads_list ?_ (reads_items read)
      rw [chars, List.map_append, List.append_assoc]
      exact skipBlanks_cons (by decide)
  | .record [], rest, _, _ => by
      refine reads_record ?_ reads_members_nil
      rw [chars, membersChars]
      exact skipBlanks_cons (by decide)
  | .record (member :: others), rest, proper, _ => by
      rw [Proper] at proper
      have read := reads_membersChars (member :: others) rest (by simp) proper
      refine reads_record ?_ (reads_members read)
      rw [chars, List.map_append, List.append_assoc]
      exact skipBlanks_cons (by decide)

/-- The items of a list, by recursion on them, with the bracket that closes it. -/
theorem reads_itemsChars : ∀ (items : List Value) (rest : List Symbol), items ≠ [] →
    AllProper items →
      Reads (readMoreItems ((itemsChars items).map some ++ some ']' :: rest)) items rest
  | [], _, nonempty, _ => absurd rfl nonempty
  | [item], rest, _, proper => by
      rw [AllProper] at proper
      rw [itemsChars]
      exact reads_last_item (reads_chars item proper.1 (ends_cons (by decide) rest))
  | item :: next :: others, rest, _, proper => by
      rw [AllProper] at proper
      have more := reads_itemsChars (next :: others) rest (by simp) proper.2
      rw [itemsChars, List.map_append, List.append_assoc]
      · exact reads_more_items (reads_chars item proper.1 (ends_cons (by decide) _)) more
      · simp

/-- The members of a record, by recursion on them, with the brace that closes it. -/
theorem reads_membersChars : ∀ (members : List (Option String × Value)) (rest : List Symbol),
    members ≠ [] → AllMembersProper members →
      Reads (readMoreMembers ((membersChars members).map some ++ some '}' :: rest)) members rest
  | [], _, nonempty, _ => absurd rfl nonempty
  | [(name, value)], rest, _, proper => by
      rw [AllMembersProper] at proper
      obtain ⟨named, proper, _⟩ := proper
      obtain ⟨name, rfl⟩ := Option.isSome_iff_exists.mp named
      have read := reads_chars value proper (ends_cons (c := '}') (by decide) rest)
      rw [membersChars, List.map_append, List.append_assoc]
      exact reads_last_member (reads_name name) read
  | (name, value) :: next :: others, rest, _, proper => by
      rw [AllMembersProper] at proper
      obtain ⟨named, proper, properOthers⟩ := proper
      obtain ⟨name, rfl⟩ := Option.isSome_iff_exists.mp named
      have more := reads_membersChars (next :: others) rest (by simp) properOthers
      rw [membersChars, List.map_append, List.append_assoc, List.map_cons, List.map_append,
        List.cons_append, List.append_assoc]
      · exact reads_more_members (reads_name name)
          (reads_chars value proper (ends_cons (by decide) _)) more
      · simp

end

/-! ### Whole inputs -/

/-- Every value whose numbers are numerals is read back from what was written of it. -/
theorem ofText?_write {value : Value} (proper : Proper value) :
    ofText? (write value) = some value := by
  obtain ⟨shorter, read⟩ := reads_chars value proper ends_nil
  have whole : symbolsOfText (write value) = (chars value).map some ++ [] := by
    simp [symbolsOfText, write]
  rw [ofText?, whole, read?, read]
  rfl

/-- What is written for a value as bytes is read back. -/
theorem ofBytes?_write {value : Value} (proper : Proper value) :
    ofBytes? (Bytes.ofText (write value)) = some value := by
  rw [ofBytes?, symbols, Bytes.text?_ofText]
  exact ofText?_write proper

end TrafficMeter.Data.Json
