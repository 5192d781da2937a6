/-
Module: TrafficMeter.Proofs.FilterWords
Purpose: The words of a filter text, told without the scanner: a text is cut into parentheses and the
  longest runs of other characters between them and blanks.  A text can be cut in one way only, and the
  scanner cuts it in this way.
Main exports: Token.Cut, Token.cut_iff_scan, Token.Spells, Token.keyword?_eq_some_iff
-/
import Mathlib.Data.List.TakeWhile
import TrafficMeter.Net.Filter.Token

namespace TrafficMeter.Net.Filter

open Text

namespace Token

/-! ### Cutting a text into words -/

/-- A text is cut into these tokens: a parenthesis stands for itself, blanks are left out, and a run of
other characters is a word as long as it goes. -/
inductive Cut : List Char → List Token → Prop where
  | nil : Cut [] []
  | openParen {text : List Char} {tokens : List Token} (rest : Cut text tokens) :
      Cut ('(' :: text) (.openParen :: tokens)
  | closeParen {text : List Char} {tokens : List Token} (rest : Cut text tokens) :
      Cut (')' :: text) (.closeParen :: tokens)
  | blank {c : Char} {text : List Char} {tokens : List Token} (blank : isBlank c = true)
      (rest : Cut text tokens) : Cut (c :: text) tokens
  | word {run text : List Char} {tokens : List Token} (nonempty : run ≠ [])
      (all : ∀ c ∈ run, isWordChar c = true) (ends : ∀ c ∈ text.head?, isWordChar c = false)
      (rest : Cut text tokens) : Cut (run ++ text) (.word run :: tokens)

/-- A word goes on up to the next blank or parenthesis. -/
theorem isWordChar_iff {c : Char} :
    isWordChar c = true ↔ isBlank c = false ∧ c ≠ '(' ∧ c ≠ ')' := by
  simp [isWordChar, and_assoc]

theorem scan_blank {c : Char} (blank : isBlank c = true) (text : List Char) :
    scan (c :: text) = scan text := by
  have notOpen : c ≠ '(' := by
    rintro rfl
    exact absurd blank (by decide)
  have notClose : c ≠ ')' := by
    rintro rfl
    exact absurd blank (by decide)
  rw [scan.eq_4 c text notOpen notClose, if_pos blank]

/-- A word ends where the first character stands that cannot be part of it. -/
theorem scan_word {run text : List Char} (nonempty : run ≠ [])
    (all : ∀ c ∈ run, isWordChar c = true) (ends : ∀ c ∈ text.head?, isWordChar c = false) :
    scan (run ++ text) = .word run :: scan text := by
  cases run with
  | nil => exact absurd rfl nonempty
  | cons c others =>
      obtain ⟨solid, notOpen, notClose⟩ := isWordChar_iff.mp (all c List.mem_cons_self)
      have inside : ∀ d ∈ others, isWordChar d = true := fun d member =>
        all d (List.mem_cons_of_mem _ member)
      have taken : text.takeWhile isWordChar = [] ∧ text.dropWhile isWordChar = text := by
        cases text with
        | nil => exact ⟨rfl, rfl⟩
        | cons d behind => simp [ends d rfl]
      rw [List.cons_append, scan.eq_4 c _ notOpen notClose,
        if_neg (by rw [solid]; exact Bool.false_ne_true),
        List.takeWhile_append_of_pos inside, List.dropWhile_append_of_pos inside, taken.1, taken.2,
        List.append_nil]

/-- There is but one way to cut a text, and the scanner finds it. -/
theorem Cut.scan_eq {text : List Char} {tokens : List Token} (cut : Cut text tokens) :
    scan text = tokens := by
  induction cut with
  | nil => rw [scan]
  | openParen _ ih => rw [scan, ih]
  | closeParen _ ih => rw [scan, ih]
  | blank blank _ ih => rw [scan_blank blank, ih]
  | word nonempty all ends _ ih => rw [scan_word nonempty all ends, ih]

/-- Every text can be cut, as the scanner shows; the induction is on its length, since a word takes
more than one character away. -/
theorem cut_scan (text : List Char) : Cut text (scan text) := by
  fun_induction scan text with
  | case1 => exact .nil
  | case2 rest ih => exact .openParen ih
  | case3 rest ih => exact .closeParen ih
  | case4 c rest notOpen notClose blank ih => exact .blank blank ih
  | case5 c rest notOpen notClose solid ih =>
      have whole : c :: rest =
          (c :: rest.takeWhile isWordChar) ++ rest.dropWhile isWordChar := by
        rw [List.cons_append, List.takeWhile_append_dropWhile]
      rw [whole]
      refine .word (List.cons_ne_nil _ _) ?_ ?_ ih
      · intro d member
        rcases List.mem_cons.mp member with rfl | later
        · exact isWordChar_iff.mpr ⟨eq_false_of_ne_true solid, notOpen, notClose⟩
        · exact List.mem_takeWhile_imp later
      · intro d first
        have stops := List.head?_dropWhile_not isWordChar rest
        rw [Option.mem_def.mp first] at stops
        simpa using stops

/-- The scanner finds the words of a text, and there is no other way to cut it. -/
theorem cut_iff_scan {text : List Char} {tokens : List Token} :
    Cut text tokens ↔ tokens = scan text := by
  constructor
  · intro cut
    exact cut.scan_eq.symm
  · rintro rfl
    exact cut_scan text

/-! ### Keywords -/

/-- A token spells a keyword when its letters are those of the keyword, ASCII capitals or not. -/
def Spells (token : Token) (keyword : Keyword) : Prop :=
  ∃ text, token = .word text ∧ asciiLower text = keyword.spelling.toList

/-- No two keywords are spelled alike. -/
theorem spelling_injective {one other : Keyword}
    (same : one.spelling.toList = other.spelling.toList) : one = other := by
  revert same
  cases one <;> cases other <;> decide

/-- A token is taken for a keyword exactly if it spells it, in capitals or not. -/
theorem keyword?_eq_some_iff {token : Token} {keyword : Keyword} :
    token.keyword? = some keyword ↔ token.Spells keyword := by
  constructor
  · intro found
    cases token with
    | openParen => cases found
    | closeParen => cases found
    | word text =>
        have spelt := List.find?_some found
        exact ⟨text, rfl, of_decide_eq_true spelt⟩
  · rintro ⟨text, rfl, spelt⟩
    have here : keyword ∈ Keyword.all := by cases keyword <;> decide
    rw [keyword?]
    cases found : Keyword.all.find? fun other => asciiLower text = other.spelling.toList with
    | none => exact absurd (decide_eq_true spelt) (List.find?_eq_none.mp found keyword here)
    | some other =>
        have same := List.find?_some found
        rw [decide_eq_true_iff] at same
        rw [spelling_injective (same.symm.trans spelt)]

theorem Spells.unique {token : Token} {one other : Keyword} (first : token.Spells one)
    (second : token.Spells other) : one = other := by
  have same := (keyword?_eq_some_iff.mpr first).symm.trans (keyword?_eq_some_iff.mpr second)
  exact Option.some.inj same

end Token

end TrafficMeter.Net.Filter
