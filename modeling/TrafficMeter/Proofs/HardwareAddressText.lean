/-
Module: TrafficMeter.Proofs.HardwareAddressText
Purpose: Texts of hardware addresses.  A text is cut into pieces at its colons once the blanks around it
  are gone, and it is an address exactly if these are six octets, each a hexadecimal number of any
  spelling below 256.  Why another text is refused is told by its pieces in order.  An address is read
  back from the text that it is written as.
Main exports: Text.Core, Text.trim_eq_iff, HexDigit, HexNumber, SpellsOctet, Pieces, Verdict,
  hardware_addresses_read_exactly
-/
import Mathlib
import TrafficMeter.Proofs.InterfaceDiscovery
import TrafficMeter.Proofs.NumeralReading

namespace TrafficMeter

/-- Of two lists whose elements are related in order, each element of the first is related to some. -/
theorem exists_of_mem_of_forall₂ {α β : Type} {Related : α → β → Prop} {left : List α}
    {right : List β} (related : List.Forall₂ Related left right) {a : α} (member : a ∈ left) :
    ∃ b, Related a b := by
  induction related with
  | nil => cases member
  | @cons head b others _ here _ ih =>
      rcases List.mem_cons.mp member with rfl | later
      · exact ⟨b, here⟩
      · exact ih later

/-! ### Blanks around a text -/

namespace Text

/-- What is left of a text without the blanks around it. -/
structure Core (text core : List Char) : Prop where
  framed : ∃ before after, text = before ++ core ++ after ∧ ∀ c ∈ before ++ after, isBlank c = true
  first : ∀ c, core.head? = some c → isBlank c = false
  last : ∀ c, core.getLast? = some c → isBlank c = false

variable {text core : List Char}

theorem Core.refl (solid : ∀ c ∈ text, isBlank c = false) : Core text text where
  framed := ⟨[], [], by simp, by simp⟩
  first c here := solid c (List.mem_of_head? here)
  last c here := solid c (List.mem_of_getLast? here)

/-- A text is what is left of it without the blanks behind, and these blanks. -/
theorem trimEnd_append_trailing (text : List Char) : trimEnd text ++ text.rtakeWhile isBlank = text :=
  List.rdropWhile_append_rtakeWhile

/-- Trimming takes the blanks off both ends, and nothing but blanks. -/
theorem core_trim (text : List Char) : Core text (trim text) where
  framed := by
    refine ⟨text.takeWhile isBlank, (trimStart text).rtakeWhile isBlank, ?_, ?_⟩
    · rw [trim, List.append_assoc, trimEnd_append_trailing, trimStart, List.takeWhile_append_dropWhile]
    · intro c member
      rcases List.mem_append.mp member with front | back
      · exact List.mem_takeWhile_imp front
      · exact List.mem_rtakeWhile_imp back
  first := by
    intro c here
    have started : (trimStart text).head? = some c := by
      rw [← trimEnd_append_trailing (trimStart text), List.head?_append, ← trim, here]
      rfl
    have solid := List.head?_dropWhile_not isBlank text
    rw [trimStart] at started
    rw [started] at solid
    exact solid
  last := by
    intro c here
    have solid := List.head?_dropWhile_not isBlank (trimStart text).reverse
    rw [trim, trimEnd, List.getLast?_reverse] at here
    rw [here] at solid
    exact solid

theorem dropWhile_blanks_append {blanks solid : List Char} (blank : ∀ c ∈ blanks, isBlank c = true)
    (first : ∀ c, solid.head? = some c → isBlank c = false) :
    (blanks ++ solid).dropWhile isBlank = solid := by
  rw [List.dropWhile_append_of_pos blank]
  cases solid with
  | nil => rfl
  | cons c rest => exact List.dropWhile_cons_of_neg (by simp [first c rfl])

/-- Nothing else does so, as neither end of what is left may be blank. -/
theorem Core.trim_eq (framed : Core text core) : trim text = core := by
  obtain ⟨⟨before, after, rfl, blank⟩, first, last⟩ := framed
  by_cases none : core = []
  · subst none
    have nothing : trimStart (before ++ [] ++ after) = [] := by
      rw [List.append_nil, trimStart, List.dropWhile_eq_nil_iff]
      exact blank
    rw [trim, nothing]
    rfl
  · have front : trimStart (before ++ core ++ after) = core ++ after := by
      rw [trimStart, List.append_assoc]
      apply dropWhile_blanks_append
      · exact fun c member => blank c (List.mem_append_left after member)
      · exact fun c here => first c (List.head?_append_of_ne_nil core none ▸ here)
    have back : (core ++ after).reverse.dropWhile isBlank = core.reverse := by
      rw [List.reverse_append]
      apply dropWhile_blanks_append
      · exact fun c member => blank c (List.mem_append_right before (List.mem_reverse.mp member))
      · exact fun c here => last c (List.head?_reverse ▸ here)
    rw [trim, front, trimEnd, back, List.reverse_reverse]

/-- So a trimmed text is told by that. -/
theorem trim_eq_iff : trim text = core ↔ Core text core := by
  constructor
  · rintro rfl
    exact core_trim text
  · exact Core.trim_eq

/-! ### Hexadecimal numbers -/

/-- A hexadecimal digit of either case, with its value. -/
inductive HexDigit : Char → Nat → Prop where
  | small {value : Nat} (below : value < 16) : HexDigit value.digitChar value
  | capital {value : Nat} (below : value < 16) : HexDigit value.digitChar.toUpper value

/-- Hexadecimal digits, at least one, with the value of the number; zeros may stand in front. -/
structure HexNumber (digits : List Char) (number : Nat) : Prop where
  nonempty : digits ≠ []
  /-- the last digit counts its value once, and each digit sixteen times what the next one does -/
  value : ∃ values, List.Forall₂ HexDigit digits.reverse values ∧ Nat.ofDigits 16 values = number

theorem hexDigit_of_digit? {c : Char} {value : Nat} (read : digit? 16 c = some value) :
    HexDigit c value := by
  have within : ∀ low high : Char, low ≤ c ∧ c ≤ high ↔
      low.toNat ≤ c.toNat ∧ c.toNat ≤ high.toNat := fun _ _ => Iff.rfl
  have zero : '0'.toNat = 48 := rfl
  have nine : '9'.toNat = 57 := rfl
  have smallA : 'a'.toNat = 97 := rfl
  have smallZ : 'z'.toNat = 122 := rfl
  have capitalA : 'A'.toNat = 65 := rfl
  have capitalZ : 'Z'.toNat = 90 := rfl
  have numerals : ∀ n < 58, 48 ≤ n → (n - 48).digitChar = Char.ofNat n := by decide
  have smalls : ∀ n < 103, 97 ≤ n → (n - 97 + 10).digitChar = Char.ofNat n := by decide
  have capitals : ∀ n < 71, 65 ≤ n → (n - 65 + 10).digitChar.toUpper = Char.ofNat n := by decide
  simp only [digit?, within, zero, nine, smallA, smallZ, capitalA, capitalZ,
    Option.filter_eq_some_iff, decide_eq_true_eq] at read
  obtain ⟨found, below⟩ := read
  split at found
  · cases found
    have digit := HexDigit.small below
    rwa [numerals c.toNat (by omega) (by omega), Char.ofNat_toNat] at digit
  · split at found
    · cases found
      have digit := HexDigit.small below
      rwa [smalls c.toNat (by omega) (by omega), Char.ofNat_toNat] at digit
    · split at found
      · cases found
        have digit := HexDigit.capital below
        rwa [capitals c.toNat (by omega) (by omega), Char.ofNat_toNat] at digit
      · cases found

/-- The sixteen hexadecimal digits, small and capital, with their values. -/
theorem digit?_eq_some_iff {c : Char} {value : Nat} :
    digit? 16 c = some value ↔ HexDigit c value := by
  constructor
  · exact hexDigit_of_digit?
  · rintro (below | below)
    · exact digit?_digitChar below (by decide)
    · have capitals : ∀ d < 16, digit? 16 d.digitChar.toUpper = some d := by decide
      exact capitals _ below

/-- A run of digits is read as its value, one digit after another. -/
theorem digitsValue?_eq_some_iff {digits : List Char} {number : Nat} :
    digitsValue? 16 digits = some number ↔
      ∃ values, List.Forall₂ HexDigit digits.reverse values ∧ Nat.ofDigits 16 values = number := by
  induction digits using List.reverseRecOn generalizing number with
  | nil => simp [digitsValue?, eq_comm]
  | append_singleton digits c ih =>
      simp only [digitsValue?_concat, List.reverse_append, List.reverse_singleton,
        List.singleton_append, Option.bind_eq_some_iff, Option.map_eq_some_iff, ih,
        digit?_eq_some_iff]
      constructor
      · rintro ⟨_, ⟨values, read, rfl⟩, value, digit, rfl⟩
        refine ⟨value :: values, .cons digit read, ?_⟩
        rw [Nat.ofDigits_cons]
        omega
      · rintro ⟨_, _ | ⟨digit, read⟩, rfl⟩
        rename_i value values
        refine ⟨_, ⟨values, read, rfl⟩, value, digit, ?_⟩
        rw [Nat.ofDigits_cons]
        omega

/-- Reading digit by digit gives the number that the digits show. -/
theorem hexNumber_iff {digits : List Char} {number : Nat} :
    HexNumber digits number ↔ digits ≠ [] ∧ digitsValue? 16 digits = some number := by
  rw [digitsValue?_eq_some_iff]
  exact ⟨fun shown => ⟨shown.nonempty, shown.value⟩, fun ⟨nonempty, value⟩ => ⟨nonempty, value⟩⟩

/-- Nothing but digits shows a number. -/
theorem HexNumber.hexDigit_of_mem {digits : List Char} {number : Nat}
    (shown : HexNumber digits number) {c : Char} (member : c ∈ digits) : ∃ value, HexDigit c value := by
  obtain ⟨values, read, _⟩ := shown.value
  exact exists_of_mem_of_forall₂ read (List.mem_reverse.mpr member)

/-- Digits are told from blanks, colons and plus signs. -/
theorem HexDigit.plain {c : Char} {value : Nat} (digit : HexDigit c value) :
    isBlank c = false ∧ c ≠ ':' ∧ c ≠ '+' := by
  have all : ∀ d < 16, (isBlank d.digitChar = false ∧ d.digitChar ≠ ':' ∧ d.digitChar ≠ '+') ∧
      isBlank d.digitChar.toUpper = false ∧ d.digitChar.toUpper ≠ ':' ∧
        d.digitChar.toUpper ≠ '+' := by decide
  cases digit with
  | small below => exact (all _ below).1
  | capital below => exact (all _ below).2

/-- A number is read where it stays below 256. -/
theorem digitsBelow?_eq_some_iff {digits : List Char} {number : Nat} :
    (if digits.isEmpty then none else digitsBelow? 16 256 digits) = some number ↔
      HexNumber digits number ∧ number < 256 := by
  rw [hexNumber_iff, digitsBelow?_eq (by decide) (by decide)]
  cases digits with
  | nil => simp
  | cons c rest => simp [Option.filter_eq_some_iff]

end Text

namespace Net

open Text

/-! ### Pieces between colons -/

/-- The pieces of a text: with colons between them, and none inside of one, they are what is left of the
text without the blanks around it. -/
structure Pieces (text : List Char) (pieces : List (List Char)) : Prop where
  nonempty : pieces ≠ []
  apart : ∀ piece ∈ pieces, ':' ∉ piece
  joined : Core text ([':'].intercalate pieces)

/-- A text of an octet: a hexadecimal number, maybe behind a plus sign. -/
inductive SpellsOctet : List Char → UInt8 → Prop where
  | plain {digits : List Char} {octet : UInt8} (number : HexNumber digits octet.toNat) :
      SpellsOctet digits octet
  | signed {digits : List Char} {octet : UInt8} (number : HexNumber digits octet.toNat) :
      SpellsOctet ('+' :: digits) octet

namespace HardwareAddress

/-- A text has one part at least, which may be empty. -/
theorem parts_ne_nil (text : List Char) : parts text ≠ [] := by
  fun_cases parts text <;> simp

/-- A character that is no colon goes to the first part. -/
theorem parts_cons_of_ne {c : Char} (other : c ≠ ':') (rest : List Char) :
    ∃ first others, parts rest = first :: others ∧ parts (c :: rest) = (c :: first) :: others := by
  obtain ⟨first, others, cut⟩ := List.exists_cons_of_ne_nil (parts_ne_nil rest)
  exact ⟨first, others, cut, by rw [parts, if_neg other, cut]⟩

/-- The parts are what the colons leave of the text. -/
theorem parts_eq_splitOn (text : List Char) : parts text = text.splitOn ':' := by
  induction text with
  | nil => rfl
  | cons c rest ih =>
      rw [List.splitOn_cons_eq_if_modifyHead, ← ih]
      by_cases colon : c = ':'
      · simp [parts, colon]
      · obtain ⟨first, others, cut, whole⟩ := parts_cons_of_ne colon rest
        rw [whole, cut, beq_eq_false_iff_ne.mpr colon]
        rfl

/-- No part has a colon. -/
theorem not_mem_of_mem_parts {text piece : List Char} (member : piece ∈ parts text) :
    ':' ∉ piece := by
  induction text generalizing piece with
  | nil =>
      cases List.mem_singleton.mp member
      exact List.not_mem_nil
  | cons c rest ih =>
      by_cases colon : c = ':'
      · rw [parts, if_pos colon] at member
        rcases List.mem_cons.mp member with rfl | later
        · exact List.not_mem_nil
        · exact ih later
      · obtain ⟨first, others, cut, whole⟩ := parts_cons_of_ne colon rest
        rw [cut] at ih
        rw [whole] at member
        rcases List.mem_cons.mp member with rfl | later
        · exact List.not_mem_cons_of_ne_of_not_mem (Ne.symm colon) (ih List.mem_cons_self)
        · exact ih (List.mem_cons_of_mem _ later)

/-- What a text is cut into are its pieces. -/
theorem pieces_iff {text : List Char} {pieces : List (List Char)} :
    Pieces text pieces ↔ parts (trim text) = pieces := by
  constructor
  · intro cut
    rw [parts_eq_splitOn, trim_eq_iff.mpr cut.joined, List.splitOn_intercalate ':' cut.apart cut.nonempty]
  · rintro rfl
    refine ⟨parts_ne_nil _, fun piece => not_mem_of_mem_parts, ?_⟩
    rw [parts_eq_splitOn, List.intercalate_splitOn]
    exact trim_eq_iff.mp rfl

/-! ### Octets -/

/-- An octet is read exactly from its spellings: a sign, if any, and digits that show less than 256.
-/
theorem readOctet?_eq_some_iff {piece : List Char} {octet : UInt8} :
    readOctet? piece = some octet ↔ SpellsOctet piece octet := by
  have unsigned (digits : List Char) :
      (if digits.isEmpty then none else digitsBelow? 16 256 digits).map UInt8.ofNat = some octet ↔
        HexNumber digits octet.toNat := by
    rw [Option.map_eq_some_iff]
    constructor
    · rintro ⟨number, read, rfl⟩
      obtain ⟨shown, below⟩ := digitsBelow?_eq_some_iff.mp read
      rwa [UInt8.toNat_ofNat_of_lt' below]
    · intro shown
      exact ⟨octet.toNat, digitsBelow?_eq_some_iff.mpr ⟨shown, octet.toNat_lt⟩, UInt8.ofNat_toNat⟩
  by_cases sign : ∃ digits, piece = '+' :: digits
  · obtain ⟨digits, rfl⟩ := sign
    rw [readOctet?, readUnsigned?, unsigned]
    constructor
    · exact .signed
    · rintro (number | number)
      · -- the sign itself is no digit
        obtain ⟨_, digit⟩ := number.hexDigit_of_mem List.mem_cons_self
        exact absurd rfl digit.plain.2.2
      · exact number
  · have digits : readUnsigned? 16 256 piece =
        if piece.isEmpty then none else digitsBelow? 16 256 piece := by
      rw [readUnsigned?]
      exact fun digits signed => sign ⟨digits, signed⟩
    rw [readOctet?, digits, unsigned]
    constructor
    · exact .plain
    · rintro (number | number)
      · exact number
      · exact absurd ⟨_, rfl⟩ sign

/-- The pieces of a text, read in order, are octets up to the first that is none. -/
theorem readOctets_eq_ok_iff {pieces : List (List Char)} {octets : List UInt8} :
    readOctets pieces = .ok octets ↔ List.Forall₂ SpellsOctet pieces octets := by
  induction pieces generalizing octets with
  | nil =>
      rw [readOctets, List.forall₂_nil_left_iff, Except.ok.injEq]
      exact eq_comm
  | cons piece others ih =>
      rw [readOctets, List.forall₂_cons_left_iff]
      simp only [← readOctet?_eq_some_iff, ← ih]
      cases readOctet? piece with
      | none => simp
      | some octet => cases readOctets others <;> simp [Except.map, eq_comm]

/-- The first part that spells no octet is the one to blame. -/
theorem readOctets_eq_error_iff {pieces : List (List Char)} {bad : List Char} :
    readOctets pieces = .error bad ↔ ∃ before after, pieces = before ++ bad :: after ∧
      (∀ piece ∈ before, ∃ octet, SpellsOctet piece octet) ∧ ∀ octet, ¬ SpellsOctet bad octet := by
  simp only [← readOctet?_eq_some_iff]
  induction pieces with
  | nil => simp [readOctets]
  | cons piece others ih =>
      rw [readOctets]
      cases octet? : readOctet? piece with
      | none =>
          constructor
          · rintro ⟨⟩
            exact ⟨[], others, rfl, by simp, by simp [octet?]⟩
          · rintro ⟨_ | ⟨first, before⟩, after, whole, good, _⟩
            · cases whole
              rfl
            · cases whole
              obtain ⟨octet, read⟩ := good piece List.mem_cons_self
              rw [octet?] at read
              cases read
      | some octet =>
          have later : (readOctets others).map (octet :: ·) = .error bad ↔
              readOctets others = .error bad := by
            cases readOctets others <;> simp [Except.map]
          dsimp only
          rw [later, ih]
          constructor
          · rintro ⟨before, after, rfl, good, none⟩
            exact ⟨piece :: before, after, rfl, List.forall_mem_cons.mpr ⟨⟨octet, octet?⟩, good⟩, none⟩
          · rintro ⟨_ | ⟨first, before⟩, after, whole, good, none⟩
            · cases whole
              exact absurd octet? (none octet)
            · cases whole
              exact ⟨before, after, rfl, (List.forall_mem_cons.mp good).2, none⟩

/-- If every part spells an octet, all are read. -/
theorem exists_readOctets {pieces : List (List Char)}
    (good : ∀ piece ∈ pieces, ∃ octet, SpellsOctet piece octet) :
    ∃ octets, readOctets pieces = .ok octets := by
  cases read : readOctets pieces with
  | ok octets => exact ⟨octets, rfl⟩
  | error bad =>
      obtain ⟨before, after, rfl, _, none⟩ := readOctets_eq_error_iff.mp read
      obtain ⟨octet, spelled⟩ := good bad (by simp)
      exact absurd spelled (none octet)

theorem length_readOctets {pieces : List (List Char)} {octets : List UInt8}
    (read : readOctets pieces = .ok octets) : octets.length = pieces.length :=
  (readOctets_eq_ok_iff.mp read).length_eq.symm

theorem spelled_of_readOctets {pieces : List (List Char)} {octets : List UInt8}
    (read : readOctets pieces = .ok octets) : ∀ piece ∈ pieces, ∃ octet, SpellsOctet piece octet :=
  fun _ member => exists_of_mem_of_forall₂ (readOctets_eq_ok_iff.mp read) member

/-! ### What comes of a text -/

/-- What comes of a text that is cut into these pieces.  The first six are looked at in order, and one
that is no octet is reported, whatever follows; after that it is too few or too many that count. -/
inductive Verdict (text : String) (pieces : List (List Char)) :
    Except Fault HardwareAddress → Prop where
  | address {address : HardwareAddress}
      (spelled : List.Forall₂ SpellsOctet pieces address.toList) : Verdict text pieces (.ok address)
  | badOctet {before after : List (List Char)} {bad : List Char}
      (here : pieces = before ++ bad :: after) (early : before.length < 6)
      (good : ∀ piece ∈ before, ∃ octet, SpellsOctet piece octet)
      (none : ∀ octet, ¬ SpellsOctet bad octet) :
      Verdict text pieces (.error (.badOctet (String.ofList bad) text))
  | tooShort (fewer : pieces.length < 6)
      (good : ∀ piece ∈ pieces, ∃ octet, SpellsOctet piece octet) :
      Verdict text pieces (.error (.tooShort text))
  | tooLong (more : 6 < pieces.length)
      (good : ∀ piece ∈ pieces.take 6, ∃ octet, SpellsOctet piece octet) :
      Verdict text pieces (.error (.tooLong text))

variable {text : String} {pieces : List (List Char)}

/-- There is a verdict on every text. -/
theorem Verdict.exists (text : String) (pieces : List (List Char)) :
    ∃ result, Verdict text pieces result := by
  cases read : readOctets (pieces.take 6) with
  | error bad =>
      obtain ⟨before, after, front, good, none⟩ := readOctets_eq_error_iff.mp read
      have whole : pieces = before ++ bad :: (after ++ pieces.drop 6) := by
        rw [← List.cons_append, ← List.append_assoc, ← front, List.take_append_drop]
      have early : before.length < 6 := by
        have short := List.length_take_le 6 pieces
        rw [front, List.length_append, List.length_cons] at short
        omega
      exact ⟨_, .badOctet whole early good none⟩
  | ok octets =>
      have good := spelled_of_readOctets read
      rcases Nat.lt_trichotomy pieces.length 6 with fewer | six | more
      · rw [List.take_of_length_le (by omega)] at good
        exact ⟨_, .tooShort fewer good⟩
      · rw [List.take_of_length_le (by omega)] at read
        have count : octets.length = 6 := (length_readOctets read).trans six
        let address : HardwareAddress := ⟨⟨octets.toArray, count⟩⟩
        exact ⟨.ok address, .address (readOctets_eq_ok_iff.mp read)⟩
      · exact ⟨_, .tooLong more good⟩

/-- Reading gives the verdict: too many or too few parts come after a part among the first six that
is no octet. -/
theorem Verdict.read_eq {result : Except Fault HardwareAddress} (verdict : Verdict text pieces result)
    (cut : Pieces text.toList pieces) : HardwareAddress.read text = result := by
  have all : parts (trim text.toList) = pieces := pieces_iff.mp cut
  cases verdict with
  | @address address spelled =>
      rw [read_eq_ok_iff, all]
      exact ⟨spelled.length_eq.trans address.octets.length_toList, readOctets_eq_ok_iff.mpr spelled⟩
  | @badOctet before after bad here early good none =>
      -- only six pieces are read, and the bad one is among them
      have front : pieces.take 6 = before ++ bad :: after.take (5 - before.length) := by
        rw [here, List.take_append, List.take_of_length_le (by omega),
          show 6 - before.length = 5 - before.length + 1 by omega, List.take_succ_cons]
      have read := readOctets_eq_error_iff.mpr ⟨before, _, front, good, none⟩
      rw [HardwareAddress.read, all, read]
  | tooShort fewer good =>
      obtain ⟨octets, read⟩ := exists_readOctets good
      have count := length_readOctets read
      rw [HardwareAddress.read, all, List.take_of_length_le (by omega), read]
      split
      · next failed => cases failed
      · next six =>
          cases six
          simp only [List.length_cons, List.length_nil] at count
          omega
      · rfl
  | tooLong more good =>
      obtain ⟨octets, read⟩ := exists_readOctets good
      have count := length_readOctets read
      rw [List.length_take, Nat.min_eq_left (by omega)] at count
      simp only [List.length_eq_succ_iff, List.length_eq_zero_iff] at count
      obtain ⟨a, _, rfl, b, _, rfl, c, _, rfl, d, _, rfl, e, _, rfl, f, _, rfl, rfl⟩ := count
      rw [HardwareAddress.read, all, read]
      exact if_neg (by omega)

/-- And a verdict is given only once, so reading gives nothing else. -/
theorem read_eq_iff (cut : Pieces text.toList pieces) {result : Except Fault HardwareAddress} :
    HardwareAddress.read text = result ↔ Verdict text pieces result := by
  constructor
  · rintro rfl
    obtain ⟨result, verdict⟩ := Verdict.exists text pieces
    rwa [verdict.read_eq cut]
  · intro verdict
    exact verdict.read_eq cut

/-! ### The written form -/

theorem mem_intercalate {mark c : Char} {pieces : List (List Char)}
    (member : c ∈ [mark].intercalate pieces) : c = mark ∨ ∃ piece ∈ pieces, c ∈ piece := by
  induction pieces with
  | nil => cases member
  | cons piece others ih =>
      cases others with
      | nil =>
          rw [List.intercalate_singleton] at member
          exact .inr ⟨piece, List.mem_cons_self, member⟩
      | cons next others =>
          rw [List.intercalate_cons_cons, List.append_assoc, List.singleton_append] at member
          rcases List.mem_append.mp member with here | later
          · exact .inr ⟨piece, List.mem_cons_self, here⟩
          · rcases List.mem_cons.mp later with mark | later
            · exact .inl mark
            · rcases ih later with mark | ⟨inside, known, here⟩
              · exact .inl mark
              · exact .inr ⟨inside, List.mem_cons_of_mem _ known, here⟩

theorem hexNumber_hexPadded (octet : UInt8) :
    HexNumber (hexPadded 2 octet.toNat) octet.toNat := by
  have count : (hexPadded 2 octet.toNat).length = 2 := length_hexPadded (by decide) octet.toNat_lt
  refine hexNumber_iff.mpr ⟨fun none => ?_, digitsValue?_hexPadded 2 octet.toNat⟩
  rw [none] at count
  cases count

/-- The pieces of the written form are the two digits of each octet. -/
theorem pieces_text (address : HardwareAddress) : Pieces address.text.toList
    (address.toList.map fun octet => hexPadded 2 octet.toNat) where
  nonempty none := by
    have count : address.toList.length = 6 := address.octets.length_toList
    rw [List.map_eq_nil_iff.mp none] at count
    cases count
  apart piece member := by
    obtain ⟨octet, _, rfl⟩ := List.mem_map.mp member
    intro colon
    obtain ⟨_, digit⟩ := (hexNumber_hexPadded octet).hexDigit_of_mem colon
    exact absurd rfl digit.plain.2.1
  joined := by
    rw [HardwareAddress.text, String.toList_ofList]
    apply Core.refl
    intro c member
    rcases mem_intercalate member with rfl | ⟨piece, known, inside⟩
    · decide
    · obtain ⟨octet, _, rfl⟩ := List.mem_map.mp known
      obtain ⟨_, digit⟩ := (hexNumber_hexPadded octet).hexDigit_of_mem inside
      exact digit.plain.1

/-- What is written of an address is read as that address. -/
theorem read_text (address : HardwareAddress) : HardwareAddress.read address.text = .ok address := by
  apply (read_eq_iff (pieces_text address)).mpr
  apply Verdict.address
  rw [List.forall₂_map_left_iff, List.forall₂_same]
  exact fun octet _ => .plain (hexNumber_hexPadded octet)

/-- So two addresses are written differently. -/
theorem text_inj {address other : HardwareAddress} : address.text = other.text ↔ address = other := by
  constructor
  · intro same
    have read := read_text address
    rw [same, read_text] at read
    exact (Except.ok.inj read).symm
  · exact congrArg HardwareAddress.text

end HardwareAddress

open HardwareAddress

/-- Every text has its pieces, in one way.  It is read as an address exactly if there are six pieces,
which spell the octets of the address in order, so that with fewer or more it is refused; and any fault
is told by the pieces as `Verdict` says, a bad one among the first six before their number.  Every
address is read back from the text that it is written as; so an address that was read is read again from
its written form, which is the same for another text exactly if that is read as the same address. -/
theorem hardware_addresses_read_exactly (text : String) :
    (∃! pieces, Pieces text.toList pieces) ∧
      (∀ pieces, Pieces text.toList pieces →
        (∀ address, HardwareAddress.read text = .ok address ↔
          List.Forall₂ SpellsOctet pieces address.toList) ∧
        (pieces.length ≠ 6 → ∃ fault, HardwareAddress.read text = .error fault) ∧
        ∀ result, HardwareAddress.read text = result ↔ Verdict text pieces result) ∧
      (∀ address : HardwareAddress, HardwareAddress.read address.text = .ok address) ∧
      ∀ address, HardwareAddress.read text = .ok address →
        HardwareAddress.read address.text = HardwareAddress.read text ∧
          ∀ other address', HardwareAddress.read other = .ok address' →
            (address'.text = address.text ↔
              HardwareAddress.read other = HardwareAddress.read text) := by
  refine ⟨?unique, fun pieces cut => ⟨fun address => ?accepted, ?refused, fun result => ?verdict⟩,
    read_text, ?again⟩
  case unique =>
    refine ⟨parts (trim text.toList), pieces_iff.mpr rfl, fun pieces cut => ?_⟩
    exact (pieces_iff.mp cut).symm
  case accepted =>
    rw [read_eq_iff cut]
    constructor
    · rintro ⟨spelled⟩
      exact spelled
    · exact .address
  case refused =>
    intro other
    cases read : HardwareAddress.read text with
    | error fault => exact ⟨fault, rfl⟩
    | ok address =>
        rw [read_eq_ok_iff, pieces_iff.mp cut] at read
        exact absurd read.1 other
  case verdict => exact read_eq_iff cut
  case again =>
    intro address read
    refine ⟨(read_text address).trans read.symm, fun other address' read' => ?_⟩
    rw [text_inj, read, read', Except.ok.injEq]

/-- An address in an unusual spelling, and a text with a piece too many behind one that is no octet. -/
theorem hardware_addresses_read_exactly_of_samples :
    let spelling := "\t+2:42:aC:11:0:0002 "
    let pieces := ["+2", "42", "aC", "11", "0", "0002"].map String.toList
    let address : HardwareAddress := .ofOctets 2 0x42 0xac 0x11 0 2
    let broken := "1:2:0x3:4:5:6:7"
    (Pieces spelling.toList pieces ∧ HardwareAddress.read spelling = .ok address ∧
        List.Forall₂ SpellsOctet pieces address.toList ∧
        HardwareAddress.read address.text = HardwareAddress.read spelling) ∧
      ∃ parts, Pieces broken.toList parts ∧ parts.length ≠ 6 ∧
        Verdict broken parts (.error (.badOctet "0x3" broken)) := by
  intro spelling pieces address broken
  obtain ⟨_, told, _, again⟩ := hardware_addresses_read_exactly spelling
  have cut : Pieces spelling.toList pieces := pieces_iff.mpr (by decide +kernel)
  have read : HardwareAddress.read spelling = .ok address := by decide +kernel
  have spelled := ((told pieces cut).1 address).mp read
  refine ⟨⟨cut, read, spelled, (again address read).1⟩, ?_⟩
  obtain ⟨⟨parts, cut', _⟩, told', _⟩ := hardware_addresses_read_exactly broken
  have seven : parts.length = 7 := by
    rw [← pieces_iff.mp cut']
    decide +kernel
  have other : parts.length ≠ 6 := by omega
  have refused : HardwareAddress.read broken = .error (.badOctet "0x3" broken) := by decide +kernel
  exact ⟨parts, cut', other, ((told' parts cut').2.2 _).mp refused⟩

end Net

end TrafficMeter
