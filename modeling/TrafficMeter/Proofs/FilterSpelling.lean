/-
Module: TrafficMeter.Proofs.FilterSpelling
Purpose: What makes no difference to a filter text.  The scanner cuts two texts that are put together
  where no word goes across, and every reader takes a capital for the small letter.  So a text keeps
  its tree when letters change their case, when blanks are put beside a parenthesis or taken away
  there, and when other blanks stand between two words.
Main exports: toLower_spec, IpAddress.read?_asciiLower, Token.scan_append, Token.lower,
  Disjunction.respell, Respelling, read_respelled
-/
import Mathlib
import TrafficMeter.Proofs.FilterGrammar

namespace TrafficMeter.Text

/-! ### Capitals and small letters -/

/-- A capital becomes the small letter 32 places behind it, and any other character stays. -/
theorem toLower_spec (c : Char) :
    65 ≤ c.toNat ∧ c.toNat ≤ 90 ∧ c.toLower.toNat = c.toNat + 32 ∨
      ¬ (65 ≤ c.toNat ∧ c.toNat ≤ 90) ∧ c.toLower = c := by
  have capital : 'A'.val ≤ c.val ∧ c.val ≤ 'Z'.val ↔ 65 ≤ c.toNat ∧ c.toNat ≤ 90 := Iff.rfl
  by_cases here : 65 ≤ c.toNat ∧ c.toNat ≤ 90
  · refine .inl ⟨here.1, here.2, ?_⟩
    rw [Char.toLower, dif_pos (capital.mpr here)]
    show (c.val + 32).toNat = c.val.toNat + 32
    rw [UInt32.toNat_add]
    have := here.2
    have : c.val.toNat = c.toNat := rfl
    have : (32 : UInt32).toNat = 32 := rfl
    omega
  · exact .inr ⟨here, dif_neg (mt capital.mp here)⟩

/-- No blank is a letter. -/
theorem isBlank_toLower (c : Char) : isBlank c.toLower = isBlank c := by
  rcases toLower_spec c with ⟨least, most, small⟩ | ⟨_, same⟩
  · rw [Bool.eq_iff_iff]
    simp only [isBlank, blankRanges, List.any_cons, List.any_nil, Bool.or_false, Bool.or_eq_true,
      Bool.and_eq_true, decide_eq_true_iff, small]
    omega
  · rw [same]

/-- A character that is no letter is got from itself only. -/
theorem toLower_eq_iff {c d : Char} (noCapital : ¬ (65 ≤ d.toNat ∧ d.toNat ≤ 90))
    (noSmall : ¬ (97 ≤ d.toNat ∧ d.toNat ≤ 122)) : c.toLower = d ↔ c = d := by
  rw [← Char.toNat_inj, ← Char.toNat_inj]
  rcases toLower_spec c with ⟨least, most, small⟩ | ⟨_, same⟩
  · omega
  · rw [same]

/-- A digit above nine counts the same in capitals. -/
theorem digit?_toLower (radix : Nat) (c : Char) : digit? radix c.toLower = digit? radix c := by
  rcases toLower_spec c with ⟨least, most, small⟩ | ⟨_, same⟩
  · have within : ∀ low high d : Char, low ≤ d ∧ d ≤ high ↔
        low.toNat ≤ d.toNat ∧ d.toNat ≤ high.toNat := fun _ _ _ => Iff.rfl
    have zero : '0'.toNat = 48 := rfl
    have nine : '9'.toNat = 57 := rfl
    have smallA : 'a'.toNat = 97 := rfl
    have smallZ : 'z'.toNat = 122 := rfl
    have capitalA : 'A'.toNat = 65 := rfl
    have capitalZ : 'Z'.toNat = 90 := rfl
    have value : c.toNat + 32 - 97 + 10 = c.toNat - 65 + 10 := by omega
    simp only [digit?, within, small, zero, nine, smallA, smallZ, capitalA, capitalZ]
    rw [if_neg (by omega), if_pos (by omega), if_neg (by omega), if_neg (by omega),
      if_pos (by omega), value]
  · rw [same]

/-- So does a number. -/
theorem digitsBelow?_asciiLower (radix bound : Nat) (digits : List Char) :
    digitsBelow? radix bound (asciiLower digits) = digitsBelow? radix bound digits := by
  simp only [digitsBelow?, asciiLower, List.foldlM_map, digit?_toLower]

/-- Without a plus sign in front, a numeral is its digits. -/
theorem readUnsigned?_cons (radix bound : Nat) {c : Char} (unsigned : c ≠ '+') (rest : List Char) :
    readUnsigned? radix bound (c :: rest) = digitsBelow? radix bound (c :: rest) := by
  unfold readUnsigned?
  split
  · next same => exact absurd (List.cons.inj same).1 unsigned
  · rfl

/-- And a number with a sign in front of it. -/
theorem readUnsigned?_asciiLower (radix bound : Nat) (text : List Char) :
    readUnsigned? radix bound (asciiLower text) = readUnsigned? radix bound text := by
  cases text with
  | nil => rfl
  | cons c others =>
      by_cases plus : c = '+'
      · subst plus
        have sign : asciiLower ('+' :: others) = '+' :: asciiLower others := rfl
        have nonempty : (asciiLower others).isEmpty = others.isEmpty := List.isEmpty_map
        simp only [sign, readUnsigned?, nonempty, digitsBelow?_asciiLower]
      · have unsigned : c.toLower ≠ '+' := mt (toLower_eq_iff (by decide) (by decide)).mp plus
        have first : asciiLower (c :: others) = c.toLower :: asciiLower others := rfl
        rw [readUnsigned?_cons radix bound plus, first, readUnsigned?_cons radix bound unsigned,
          ← first, digitsBelow?_asciiLower]

end TrafficMeter.Text

namespace TrafficMeter.Net

open Text

/-! ### Addresses -/

/-- A numeral in an address is read alike, and what follows it is the same but for capitals. -/
theorem NumeralStyle.read?_asciiLower (style : NumeralStyle) (text : List Char) :
    style.read? (asciiLower text) =
      (style.read? text).map fun read => (read.1, asciiLower read.2) := by
  have kept : ((fun c => (digit? style.radix c).isSome) ∘ Char.toLower) =
      fun c => (digit? style.radix c).isSome := by
    funext c
    rw [Function.comp_apply, digit?_toLower]
  have front : (asciiLower text).takeWhile (fun c => (digit? style.radix c).isSome) =
      asciiLower (text.takeWhile fun c => (digit? style.radix c).isSome) := by
    rw [asciiLower, List.takeWhile_map, kept, asciiLower]
  have back : (asciiLower text).dropWhile (fun c => (digit? style.radix c).isSome) =
      asciiLower (text.dropWhile fun c => (digit? style.radix c).isSome) := by
    rw [asciiLower, List.dropWhile_map, kept, asciiLower]
  rw [NumeralStyle.read?, NumeralStyle.read?, front, back]
  generalize text.takeWhile (fun c => (digit? style.radix c).isSome) = digits
  generalize text.dropWhile (fun c => (digit? style.radix c).isSome) = rest
  have leading : (asciiLower digits).head? = some '0' ↔ digits.head? = some '0' := by
    cases digits with
    | nil => exact Iff.rfl
    | cons c others =>
        rw [asciiLower, List.map_cons, List.head?_cons, List.head?_cons, Option.some.injEq,
          Option.some.injEq]
        exact toLower_eq_iff (by decide) (by decide)
  have nonempty : asciiLower digits = [] ↔ digits = [] := List.map_eq_nil_iff
  have length : (asciiLower digits).length = digits.length := List.length_map _
  simp only [digitsBelow?_asciiLower, ne_eq, leading, nonempty, length]
  cases digitsBelow? style.radix style.bound digits with
  | none => rfl
  | some value =>
      simp only [Option.bind_eq_bind, Option.bind_some, Option.map_bind, Function.comp_def]
      rfl

/-- A mark that is no letter stands where it stood. -/
theorem readChar?_asciiLower {c : Char} (noCapital : ¬ (65 ≤ c.toNat ∧ c.toNat ≤ 90))
    (noSmall : ¬ (97 ≤ c.toNat ∧ c.toNat ≤ 122)) (text : List Char) :
    readChar? c (asciiLower text) = (readChar? c text).map asciiLower := by
  cases text with
  | nil => rfl
  | cons first rest =>
      have same : first.toLower = c ↔ first = c := toLower_eq_iff noCapital noSmall
      show (if first.toLower = c then some (asciiLower rest) else none) = _
      rw [readChar?]
      by_cases here : first = c
      · rw [if_pos here, if_pos (same.mpr here)]
        rfl
      · rw [if_neg here, if_neg (mt same.mp here)]
        rfl

namespace IpAddress

/-- Octets between points, by induction on how many are still to come. -/
theorem readOctets?_asciiLower (count : Nat) (text : List Char) :
    readOctets? count (asciiLower text) =
      (readOctets? count text).map fun read => (read.1, asciiLower read.2) := by
  induction count, text using readOctets?.induct with
  | case1 text => rfl
  | case2 text =>
      rw [readOctets?, readOctets?, NumeralStyle.read?_asciiLower]
      cases NumeralStyle.octet.read? text <;> rfl
  | case3 count text ih =>
      rw [readOctets?, readOctets?, NumeralStyle.read?_asciiLower]
      cases NumeralStyle.octet.read? text with
      | none => rfl
      | some read =>
          simp only [Option.map_some, Option.bind_eq_bind, Option.bind_some]
          rw [readChar?_asciiLower (by decide) (by decide)]
          cases readChar? '.' read.2 with
          | none => rfl
          | some rest =>
              simp only [Option.map_some, Option.bind_some, ih]
              cases readOctets? (count + 1) rest <;> rfl

/-- A version 4 address is read alike in capitals, of which it has none. -/
theorem readDotted?_asciiLower (text : List Char) :
    readDotted? (asciiLower text) =
      (readDotted? text).map fun read => (read.1, asciiLower read.2) := by
  rw [readDotted?, readDotted?, readOctets?_asciiLower]
  cases readOctets? 4 text with
  | none => rfl
  | some read =>
      obtain ⟨octets, rest⟩ := read
      match octets with
      | [a, b, c, d] => rfl
      | [] | [_] | [_, _] | [_, _, _] => rfl
      | _ :: _ :: _ :: _ :: _ :: _ => rfl

/-- A run of groups, with small letters in the rest. -/
def GroupRun.lower (run : GroupRun) : GroupRun :=
  { run with rest := asciiLower run.rest }

theorem separator?_asciiLower (isFirst : Bool) (text : List Char) :
    separator? isFirst (asciiLower text) = (separator? isFirst text).map asciiLower := by
  cases isFirst with
  | true => rfl
  | false => exact readChar?_asciiLower (by decide) (by decide) text

/-- Groups between colons, by induction on how many there is room for; a version 4 address may stand
at the end of them. -/
theorem readGroups_asciiLower (room : Nat) (isFirst : Bool) (text : List Char) :
    readGroups room isFirst (asciiLower text) = (readGroups room isFirst text).lower := by
  induction room generalizing isFirst text with
  | zero => rfl
  | succ room ih =>
      rw [readGroups, readGroups, separator?_asciiLower]
      cases separator? isFirst text with
      | none => rfl
      | some inner =>
          simp only [Option.map_some, Option.bind_some, NumeralStyle.read?_asciiLower]
          have dotted : (if room = 0 then none else readDotted? (asciiLower inner)) =
              (if room = 0 then none else readDotted? inner).map
                fun read => (read.1, asciiLower read.2) := by
            split
            · rfl
            · exact readDotted?_asciiLower inner
          rw [dotted]
          cases if room = 0 then none else readDotted? inner with
          | some read => rfl
          | none =>
              cases NumeralStyle.group.read? inner with
              | none => rfl
              | some read => simp only [Option.map_none, Option.map_some, ih, GroupRun.lower]

/-- A version 6 address is read alike in capitals. -/
theorem readV6?_asciiLower (text : List Char) :
    readV6? (asciiLower text) =
      (readV6? text).map fun read => (read.1, asciiLower read.2) := by
  rw [readV6?, readV6?, readGroups_asciiLower]
  generalize readGroups 8 true text = front
  have colon : ∀ text, readChar? ':' (asciiLower text) = (readChar? ':' text).map asciiLower :=
    readChar?_asciiLower (by decide) (by decide)
  by_cases whole : front.groups.length = 8
  · have same : front.lower.groups.length = 8 := whole
    rw [if_pos whole, if_pos same]
    show (do return (← ofGroups? front.groups, asciiLower front.rest)) = _
    cases ofGroups? front.groups <;> rfl
  · have same : ¬ front.lower.groups.length = 8 := whole
    rw [if_neg whole, if_neg same]
    obtain ⟨groups, dotted, rest⟩ := front
    cases dotted with
    | true => rfl
    | false =>
        simp only [GroupRun.lower, colon]
        cases readChar? ':' rest with
        | none => rfl
        | some rest =>
            simp only [Option.map_some, Option.bind_eq_bind, Option.bind_some, colon]
            cases readChar? ':' rest with
            | none => rfl
            | some rest =>
                simp only [Option.map_some, Option.bind_some, readGroups_asciiLower, GroupRun.lower]
                generalize readGroups _ true rest = back
                cases ofGroups? _ <;> rfl

/-- An address is read alike with capitals and with small letters. -/
theorem read?_asciiLower (text : List Char) :
    read? (String.ofList (asciiLower text)) = read? (String.ofList text) := by
  have v4 : readV4? (asciiLower text) =
      (readV4? text).map fun read => (read.1, asciiLower read.2) := by
    rw [readV4?, readV4?, readDotted?_asciiLower]
    cases readDotted? text <;> rfl
  have both : (readV4? (asciiLower text)).or (readV6? (asciiLower text)) =
      ((readV4? text).or (readV6? text)).map fun read => (read.1, asciiLower read.2) := by
    rw [v4, readV6?_asciiLower]
    cases readV4? text <;> rfl
  rw [read?, read?, String.toList_ofList, String.toList_ofList, both]
  cases (readV4? text).or (readV6? text) with
  | none => rfl
  | some read =>
      obtain ⟨address, rest⟩ := read
      cases rest <;> rfl

end IpAddress

namespace Filter

/-! ### Words -/

namespace Token

/-- A token with small letters. -/
def lower : Token → Token
  | .word text => .word (asciiLower text)
  | token => token

/-- A word goes on over the same characters. -/
theorem isWordChar_toLower (c : Char) : isWordChar c.toLower = isWordChar c := by
  rw [Bool.eq_iff_iff, isWordChar_iff, isWordChar_iff, isBlank_toLower, Ne, Ne,
    toLower_eq_iff (by decide) (by decide), toLower_eq_iff (by decide) (by decide)]

/-- Making a text small makes its tokens small, and cuts it at the same places. -/
theorem Cut.lower {text : List Char} {tokens : List Token} (cut : Cut text tokens) :
    Cut (asciiLower text) (tokens.map Token.lower) := by
  induction cut with
  | nil => exact .nil
  | openParen _ ih => exact .openParen ih
  | closeParen _ ih => exact .closeParen ih
  | blank blank _ ih => exact .blank ((isBlank_toLower _).trans blank) ih
  | @word run text tokens nonempty all ends _ ih =>
      have whole : asciiLower (run ++ text) = asciiLower run ++ asciiLower text := List.map_append
      rw [whole]
      refine .word (mt List.map_eq_nil_iff.mp nonempty) ?_ ?_ ih
      · intro c member
        obtain ⟨d, here, rfl⟩ := List.mem_map.mp member
        exact (isWordChar_toLower d).trans (all d here)
      · intro c first
        rw [asciiLower, List.head?_map] at first
        obtain ⟨d, here, rfl⟩ := Option.map_eq_some_iff.mp first
        exact (isWordChar_toLower d).trans (ends d here)

theorem scan_asciiLower (text : List Char) :
    scan (asciiLower text) = (scan text).map lower :=
  (cut_scan text).lower.scan_eq

/-- Two texts can be cut one after the other if no word goes across from one to the other. -/
theorem Cut.append {front back : List Char} {first second : List Token} (one : Cut front first)
    (two : Cut back second)
    (apart : ∀ c ∈ front.getLast?, ∀ d ∈ back.head?, isWordChar c = true → isWordChar d = false) :
    Cut (front ++ back) (first ++ second) := by
  induction one with
  | nil => exact two
  | openParen _ ih => exact .openParen (ih fun c last => apart c (List.mem_getLast?_cons last))
  | closeParen _ ih => exact .closeParen (ih fun c last => apart c (List.mem_getLast?_cons last))
  | blank blank _ ih => exact .blank blank (ih fun c last => apart c (List.mem_getLast?_cons last))
  | @word run text tokens nonempty all ends _ ih =>
      rw [List.append_assoc]
      refine .word nonempty all ?_ (ih fun c last => apart c ?_)
      · intro d first
        cases text with
        | cons e others => exact ends d first
        | nil =>
            -- the run stands at the end of the front, so the back does not go on with it
            have last := List.getLast?_eq_some_getLast nonempty
            rw [List.append_nil] at apart
            exact apart _ last d first (all _ (List.getLast_mem nonempty))
      · rw [List.getLast?_append, Option.mem_def.mp last]
        rfl

/-- Two texts may be scanned one by one, unless a word goes on from one to the other. -/
theorem scan_append {front back : List Char}
    (apart : ∀ c ∈ front.getLast?, ∀ d ∈ back.head?, isWordChar c = true → isWordChar d = false) :
    scan (front ++ back) = scan front ++ scan back :=
  ((cut_scan front).append (cut_scan back) apart).scan_eq

end Token

/-! ### Trees -/

/-- A token stands for the same port in capitals. -/
theorem readPort?_lower (token : Token) : readPort? token.lower = readPort? token := by
  cases token with
  | openParen => rfl
  | closeParen => rfl
  | word text => exact congrArg (Option.map UInt16.ofNat) (readUnsigned?_asciiLower 10 65536 text)

/-- And for the same address. -/
theorem readHost?_lower (token : Token) : readHost? token.lower = readHost? token := by
  cases token with
  | openParen => rfl
  | closeParen => rfl
  | word text => exact IpAddress.read?_asciiLower text

variable {token token' : Token} {tokens other : List Token} {filter : Filter}

/-- And for the same keyword. -/
theorem Token.Spells.of_lower {keyword : Keyword} (spelt : token.Spells keyword)
    (same : token'.lower = token.lower) : token'.Spells keyword := by
  obtain ⟨text, rfl, letters⟩ := spelt
  cases token' with
  | openParen => cases same
  | closeParen => cases same
  | word text' =>
      have alike : asciiLower text' = asciiLower text := Token.word.inj same
      exact ⟨text', rfl, alike.trans letters⟩

theorem Token.eq_openParen_of_lower (same : token.lower = .openParen) : token = .openParen := by
  cases token with
  | openParen => rfl
  | closeParen => cases same
  | word text => cases same

theorem Token.eq_closeParen_of_lower (same : token.lower = .closeParen) :
    token = .closeParen := by
  cases token with
  | openParen => cases same
  | closeParen => rfl
  | word text => cases same

mutual

/-- What one primary derives another one does that differs from it in capitals only; the recursion
follows the derivation, through parentheses and negations. -/
theorem Primary.respell : ∀ {tokens : List Token} {filter : Filter}, Primary tokens filter →
    ∀ {other : List Token}, other.map Token.lower = tokens.map Token.lower → Primary other filter
  | _, _, .tcp spelt, other, same => by
      obtain ⟨token, _, rfl, alike, none⟩ := List.map_eq_cons_iff.mp same
      cases List.map_eq_nil_iff.mp none
      exact .tcp (spelt.of_lower alike)
  | _, _, .udp spelt, other, same => by
      obtain ⟨token, _, rfl, alike, none⟩ := List.map_eq_cons_iff.mp same
      cases List.map_eq_nil_iff.mp none
      exact .udp (spelt.of_lower alike)
  | _, _, .port spelt valid, other, same => by
      obtain ⟨token, _, rfl, alike, behind⟩ := List.map_eq_cons_iff.mp same
      obtain ⟨operand, _, rfl, number, none⟩ := List.map_eq_cons_iff.mp behind
      cases List.map_eq_nil_iff.mp none
      refine .port (spelt.of_lower alike) ?_
      rw [← readPort?_lower, number, readPort?_lower]
      exact valid
  | _, _, .host spelt valid, other, same => by
      obtain ⟨token, _, rfl, alike, behind⟩ := List.map_eq_cons_iff.mp same
      obtain ⟨operand, _, rfl, address, none⟩ := List.map_eq_cons_iff.mp behind
      cases List.map_eq_nil_iff.mp none
      refine .host (spelt.of_lower alike) ?_
      rw [← readHost?_lower, address, readHost?_lower]
      exact valid
  | _, _, .negation spelt derived, other, same => by
      obtain ⟨token, others, rfl, alike, rest⟩ := List.map_eq_cons_iff.mp same
      exact .negation (spelt.of_lower alike) (derived.respell rest)
  | _, _, .parentheses derived, other, same => by
      obtain ⟨first, rest, rfl, opens, behind⟩ := List.map_eq_cons_iff.mp same
      rw [List.map_append] at behind
      obtain ⟨inner, rear, rfl, within, behind⟩ := List.map_eq_append_iff.mp behind
      obtain ⟨last, _, rfl, closes, none⟩ := List.map_eq_cons_iff.mp behind
      cases List.map_eq_nil_iff.mp none
      rw [Token.eq_openParen_of_lower opens, Token.eq_closeParen_of_lower closes]
      exact .parentheses (derived.respell within)

/-- So does a conjunction. -/
theorem Conjunction.respell : ∀ {tokens : List Token} {filter : Filter},
    Conjunction tokens filter → ∀ {other : List Token},
      other.map Token.lower = tokens.map Token.lower → Conjunction other filter
  | _, _, .one derived, other, same => .one (derived.respell same)
  | _, _, .more first spelt last, other, same => by
      rw [List.map_append, List.map_cons] at same
      obtain ⟨front, rest, rfl, before, behind⟩ := List.map_eq_append_iff.mp same
      obtain ⟨token, back, rfl, alike, after⟩ := List.map_eq_cons_iff.mp behind
      exact .more (first.respell before) (spelt.of_lower alike) (last.respell after)

/-- And a whole filter. -/
theorem Disjunction.respell : ∀ {tokens : List Token} {filter : Filter},
    Disjunction tokens filter → ∀ {other : List Token},
      other.map Token.lower = tokens.map Token.lower → Disjunction other filter
  | _, _, .one derived, other, same => .one (derived.respell same)
  | _, _, .more first spelt last, other, same => by
      rw [List.map_append, List.map_cons] at same
      obtain ⟨front, rest, rfl, before, behind⟩ := List.map_eq_append_iff.mp same
      obtain ⟨token, back, rfl, alike, after⟩ := List.map_eq_cons_iff.mp behind
      exact .more (first.respell before) (spelt.of_lower alike) (last.respell after)

end

/-- Tokens that differ in the case of letters only have the same tree, if any. -/
theorem ofTokens_of_lower (same : other.map Token.lower = tokens.map Token.lower) :
    ofTokens other = .ok filter ↔ ofTokens tokens = .ok filter := by
  have none : other = [] ↔ tokens = [] := by
    rw [← List.map_eq_nil_iff (f := Token.lower), same, List.map_eq_nil_iff]
  have derived : Disjunction other filter ↔ Disjunction tokens filter :=
    ⟨fun whole => whole.respell same.symm, fun whole => whole.respell same⟩
  rw [ofTokens_eq_ok_iff, ofTokens_eq_ok_iff, none, derived]

/-! ### Respelling -/

/-- One change of a text that leaves its words alone but for the case of their letters. -/
inductive Respelling : List Char → List Char → Prop where
  /-- the case of letters is changed -/
  | letters {text other : List Char} (same : asciiLower text = asciiLower other) :
      Respelling text other
  /-- blanks in front of a parenthesis are taken away -/
  | before {blanks : List Char} {parenthesis : Char} (front back : List Char)
      (all : ∀ c ∈ blanks, isBlank c = true) (either : parenthesis = '(' ∨ parenthesis = ')') :
      Respelling (front ++ blanks ++ parenthesis :: back) (front ++ parenthesis :: back)
  /-- blanks behind a parenthesis are taken away -/
  | behind {blanks : List Char} {parenthesis : Char} (front back : List Char)
      (all : ∀ c ∈ blanks, isBlank c = true) (either : parenthesis = '(' ∨ parenthesis = ')') :
      Respelling (front ++ parenthesis :: (blanks ++ back)) (front ++ parenthesis :: back)
  /-- other blanks stand for blanks -/
  | between {blanks blanks' : List Char} (front back : List Char)
      (all : ∀ c ∈ blanks, isBlank c = true) (some : blanks ≠ [])
      (all' : ∀ c ∈ blanks', isBlank c = true) (some' : blanks' ≠ []) :
      Respelling (front ++ blanks ++ back) (front ++ blanks' ++ back)

namespace Token

theorem not_isWordChar_of_isBlank {c : Char} (blank : isBlank c = true) : isWordChar c = false := by
  rw [isWordChar, blank]
  rfl

/-- Any number of blanks counts for nothing in front of a text. -/
theorem scan_blanks {blanks : List Char} (all : ∀ c ∈ blanks, isBlank c = true) (back : List Char) :
    scan (blanks ++ back) = scan back := by
  induction blanks with
  | nil => rfl
  | cons c others ih =>
      obtain ⟨first, later⟩ := List.forall_mem_cons.mp all
      rw [List.cons_append, scan_blank first, ih later]

theorem isWordChar_parenthesis {parenthesis : Char}
    (either : parenthesis = '(' ∨ parenthesis = ')') : isWordChar parenthesis = false := by
  rcases either with rfl | rfl <;> decide

/-- Blanks may stand between two texts if the second does not go on with a word of the first. -/
theorem scan_append_blanks (front : List Char) {blanks back : List Char}
    (all : ∀ c ∈ blanks, isBlank c = true)
    (ends : blanks = [] → ∀ d ∈ back.head?, isWordChar d = false) :
    scan (front ++ (blanks ++ back)) = scan front ++ scan back := by
  have apart : ∀ d ∈ (blanks ++ back).head?, isWordChar d = false := by
    cases blanks with
    | nil => exact ends rfl
    | cons c others =>
        intro d first
        cases first
        exact not_isWordChar_of_isBlank (all c List.mem_cons_self)
  rw [scan_append fun _ _ d first _ => apart d first, scan_blanks all]

/-- A parenthesis is a token of its own whatever follows it. -/
theorem scan_parenthesis {parenthesis : Char} (either : parenthesis = '(' ∨ parenthesis = ')')
    {back back' : List Char} (same : scan back = scan back') :
    scan (parenthesis :: back) = scan (parenthesis :: back') := by
  rcases either with rfl | rfl
  · rw [scan, scan, same]
  · rw [scan, scan, same]

end Token

/-- A respelling keeps the words but for the case of their letters. -/
theorem Respelling.scan_lower {text other : List Char} (respelling : Respelling text other) :
    (Token.scan text).map Token.lower = (Token.scan other).map Token.lower := by
  cases respelling with
  | letters same => rw [← Token.scan_asciiLower, ← Token.scan_asciiLower, same]
  | @before blanks parenthesis front back all either =>
      have ends : ∀ d ∈ (parenthesis :: back).head?, isWordChar d = false := by
        intro d first
        cases first
        exact Token.isWordChar_parenthesis either
      have none : ∀ c ∈ ([] : List Char), isBlank c = true := List.forall_mem_nil _
      have without := Token.scan_append_blanks front none fun _ => ends
      rw [List.append_assoc, Token.scan_append_blanks front all fun _ => ends, ← without,
        List.nil_append]
  | @behind blanks parenthesis front back all either =>
      have ends : ∀ back : List Char, ∀ d ∈ (parenthesis :: back).head?, isWordChar d = false := by
        intro back d first
        cases first
        exact Token.isWordChar_parenthesis either
      rw [Token.scan_append fun _ _ d first _ => ends _ d first,
        Token.scan_append fun _ _ d first _ => ends _ d first,
        Token.scan_parenthesis either (Token.scan_blanks all back)]
  | between front back all some all' some' =>
      rw [List.append_assoc, List.append_assoc,
        Token.scan_append_blanks front all fun none => absurd none some,
        Token.scan_append_blanks front all' fun none => absurd none some']

/-- Texts that are respelled, again and again and back, are read alike. -/
theorem read_respelled {source other : String}
    (respelt : Relation.EqvGen Respelling source.toList other.toList) :
    read source = .ok filter ↔ read other = .ok filter := by
  have same : ∀ {text text' : List Char}, Relation.EqvGen Respelling text text' →
      (Token.scan text).map Token.lower = (Token.scan text').map Token.lower := by
    intro text text' respelt
    induction respelt with
    | rel _ _ respelling => exact respelling.scan_lower
    | refl => rfl
    | symm _ _ _ ih => exact ih.symm
    | trans _ _ _ _ _ ih ih' => exact ih.trans ih'
  rw [read_eq_ok_iff, read_eq_ok_iff, ofTokens_of_lower (same respelt)]

end Filter

end TrafficMeter.Net
