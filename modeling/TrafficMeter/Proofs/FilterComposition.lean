/-
Module: TrafficMeter.Proofs.FilterComposition
Purpose: What filter texts mean that are put together from others.  In parentheses a text keeps its
  meaning wherever it stands.  Without them, "or" puts the operands of both texts one behind the other,
  and "and" joins the last operand of the first text to the first operand of the second.  The trees of
  such chains are not put together from those of the parts, but they mean the same.
Main exports: Operands, Operands.append, Conjunction.append, Operands.join, HasOuterOr, Means,
  filter_texts_compose
-/
import TrafficMeter.Proofs.FilterSpelling

namespace TrafficMeter.Net.Filter

open Text

variable {token : Token} {front back tokens : List Token} {filter left right : Filter}

/-! ### Operands -/

/-- Tokens that are one or more conjunctions with "or" between them, with the trees of them all. -/
inductive Operands : List Token → List Filter → Prop where
  | one {tokens : List Token} {filter : Filter} (derived : Conjunction tokens filter) :
      Operands tokens [filter]
  | more {front back : List Token} {token : Token} {filters : List Filter} {filter : Filter}
      (first : Operands front filters) (spelt : token.Spells .or)
      (last : Conjunction back filter) : Operands (front ++ token :: back) (filters ++ [filter])

variable {filters others : List Filter}

theorem Operands.ne_nil (operands : Operands tokens filters) : filters ≠ [] := by
  cases operands with
  | one derived => exact List.cons_ne_nil _ _
  | more first spelt last => exact List.append_ne_nil_of_right_ne_nil _ (List.cons_ne_nil _ _)

/-- A disjunction has operands. -/
theorem Disjunction.exists_operands : ∀ {tokens : List Token} {filter : Filter},
    Disjunction tokens filter → ∃ filters, Operands tokens filters
  | _, _, .one derived => ⟨_, .one derived⟩
  | _, _, .more first spelt last => by
      obtain ⟨filters, operands⟩ := first.exists_operands
      exact ⟨_, operands.more spelt last⟩

/-- Operands are a disjunction, which means that one of them holds. -/
theorem Operands.exists_disjunction (operands : Operands tokens filters) :
    ∃ filter, Disjunction tokens filter ∧
      ∀ flow, filter.holds flow = filters.any (·.holds flow) := by
  induction operands with
  | @one tokens filter derived =>
      refine ⟨filter, .one derived, fun flow => ?_⟩
      rw [List.any_cons, List.any_nil, Bool.or_false]
  | @more front back token filters right first spelt last ih =>
      obtain ⟨left, derived, means⟩ := ih
      refine ⟨.either left right, .more derived spelt last, fun flow => ?_⟩
      rw [holds, means, List.any_append, List.any_cons, List.any_nil, Bool.or_false]

theorem Operands.holds_eq (operands : Operands tokens filters) (derived : Disjunction tokens filter)
    (flow : Flow) : filter.holds flow = filters.any (·.holds flow) := by
  obtain ⟨other, derived', means⟩ := operands.exists_disjunction
  rw [derived.unique derived', means]

/-- With "or" between them, the operands of two texts follow one another. -/
theorem Operands.append (one : Operands front filters) (spelt : token.Spells .or)
    (two : Operands back others) : Operands (front ++ token :: back) (filters ++ others) := by
  induction two with
  | one derived => exact one.more spelt derived
  | more first spelt' last ih =>
      have longer := ih.more spelt' last
      rwa [List.append_assoc, List.cons_append, List.append_assoc] at longer

/-- With "and" between them, two conjunctions are one that means both. -/
theorem Conjunction.append (one : Conjunction front left) (spelt : token.Spells .and) :
    ∀ {back : List Token} {right : Filter}, Conjunction back right →
      ∃ whole, Conjunction (front ++ token :: back) whole ∧
        ∀ flow, whole.holds flow = (left.holds flow && right.holds flow)
  | _, _, .one derived => ⟨_, one.more spelt derived, fun _ => rfl⟩
  | _, _, .more first spelt' last => by
      obtain ⟨whole, derived, means⟩ := one.append spelt first
      have longer := derived.more spelt' last
      rw [List.append_assoc, List.cons_append] at longer
      refine ⟨_, longer, fun flow => ?_⟩
      rw [holds, holds, means, Bool.and_assoc]

/-- A conjunction behind "and" joins the last operand. -/
theorem Operands.joinConjunction {before : List Filter} {last first : Filter}
    (one : Operands front (before ++ [last])) (spelt : token.Spells .and)
    (two : Conjunction back first) :
    ∃ middle, Operands (front ++ token :: back) (before ++ [middle]) ∧
      ∀ flow, middle.holds flow = (last.holds flow && first.holds flow) := by
  generalize named : before ++ [last] = filters at one
  cases one with
  | one derived =>
      have alone : before ++ [last] = [] ++ [_] := named
      obtain ⟨rfl, same⟩ := List.append_inj' alone rfl
      cases same
      obtain ⟨middle, whole, means⟩ := derived.append spelt two
      exact ⟨middle, .one whole, means⟩
  | more earlier spelt' derived =>
      obtain ⟨rfl, same⟩ := List.append_inj' named rfl
      cases same
      obtain ⟨middle, whole, means⟩ := derived.append spelt two
      refine ⟨middle, ?_, means⟩
      rw [List.append_assoc, List.cons_append]
      exact earlier.more spelt' whole

/-- With "and" between two texts, the last operand of the first and the first one of the second become
one that means both. -/
theorem Operands.join {before behind : List Filter} {last first : Filter}
    (one : Operands front (before ++ [last])) (spelt : token.Spells .and)
    (two : Operands back (first :: behind)) :
    ∃ middle, Operands (front ++ token :: back) (before ++ middle :: behind) ∧
      ∀ flow, middle.holds flow = (last.holds flow && first.holds flow) := by
  -- the first operand of the second text lies at the bottom of its derivation, so the induction is on
  -- that, and its later operands come back one by one
  generalize named : first :: behind = filters at two
  induction two generalizing behind with
  | one derived =>
      cases named
      exact one.joinConjunction spelt derived
  | @more front' back' token' filters' filter earlier spelt' derived ih =>
      obtain ⟨others, rfl, rfl⟩ : ∃ others, filters' = first :: others ∧
          behind = others ++ [filter] := by
        rcases List.cons_eq_append_iff.mp named with ⟨none, _⟩ | found
        · exact absurd none earlier.ne_nil
        · exact found
      obtain ⟨middle, operands, means⟩ := ih rfl
      refine ⟨middle, ?_, means⟩
      have longer := operands.more spelt' derived
      rwa [List.append_assoc, List.cons_append, List.append_assoc, List.cons_append] at longer

/-! ### Parentheses -/

/-- As many parentheses are closed as are opened. -/
def Balanced (tokens : List Token) : Prop :=
  tokens.count .openParen = tokens.count .closeParen

/-- There is an "or" outside of all parentheses. -/
def HasOuterOr (tokens : List Token) : Prop :=
  ∃ front token back, tokens = front ++ token :: back ∧ token.Spells .or ∧ Balanced front

theorem Balanced.append (one : Balanced front) (two : Balanced back) : Balanced (front ++ back) := by
  rw [Balanced, List.count_append, List.count_append, one, two]

theorem balanced_singleton (opens : token ≠ .openParen) (closes : token ≠ .closeParen) :
    Balanced [token] := by
  rw [Balanced, List.count_singleton, List.count_singleton, if_neg, if_neg]
  · simpa using closes
  · simpa using opens

theorem Token.Spells.balanced {keyword : Keyword} (spelt : token.Spells keyword) :
    Balanced [token] := by
  obtain ⟨text, rfl, _⟩ := spelt
  exact balanced_singleton (fun same => nomatch same) (fun same => nomatch same)

/-- An operand is no parenthesis if no parenthesis is read as one. -/
theorem balanced_of_operand {β : Type} {operand? : Token → Option β}
    (opens : operand? .openParen = none) (closes : operand? .closeParen = none) {operand : β}
    (valid : operand? token = some operand) : Balanced [token] := by
  refine balanced_singleton ?_ ?_
  · rintro rfl
    cases opens.symm.trans valid
  · rintro rfl
    cases closes.symm.trans valid

mutual

theorem Primary.balanced : ∀ {tokens : List Token} {filter : Filter}, Primary tokens filter →
    Balanced tokens
  | _, _, .tcp spelt => spelt.balanced
  | _, _, .udp spelt => spelt.balanced
  | _, _, .port spelt valid => spelt.balanced.append (balanced_of_operand rfl rfl valid)
  | _, _, .host spelt valid => spelt.balanced.append (balanced_of_operand rfl rfl valid)
  | _, _, .negation spelt derived => spelt.balanced.append derived.balanced
  | _, _, .parentheses derived => by
      have inner := derived.balanced
      rw [Balanced] at inner ⊢
      simp [inner]

theorem Conjunction.balanced : ∀ {tokens : List Token} {filter : Filter},
    Conjunction tokens filter → Balanced tokens
  | _, _, .one derived => derived.balanced
  | _, _, .more first spelt last => first.balanced.append (spelt.balanced.append last.balanced)

theorem Disjunction.balanced : ∀ {tokens : List Token} {filter : Filter},
    Disjunction tokens filter → Balanced tokens
  | _, _, .one derived => derived.balanced
  | _, _, .more first spelt last => first.balanced.append (spelt.balanced.append last.balanced)

end

/-- Without an "or" outside parentheses there is but one operand. -/
theorem Disjunction.operands_of_no_outer_or (derived : Disjunction tokens filter)
    (without : ¬ HasOuterOr tokens) : Operands tokens [filter] := by
  cases derived with
  | one derived => exact .one derived
  | more first spelt last => exact absurd ⟨_, _, _, rfl, spelt, first.balanced⟩ without

/-! ### Texts that are put together -/

/-- A text is accepted, and means a condition. -/
def Means (source : String) (condition : Flow → Bool) : Prop :=
  ∃ filter, read source = .ok filter ∧ ∀ flow, filter.holds flow = condition flow

theorem Means.of_disjunction {source : String} {condition : Flow → Bool}
    (derived : Disjunction (Token.scan source.toList) filter)
    (means : ∀ flow, filter.holds flow = condition flow) : Means source condition :=
  ⟨filter, read_eq_ok_iff.mpr (ofTokens_eq_ok_iff.mpr (.inr derived)), means⟩

theorem disjunction_of_read {source : String} (accepted : read source = .ok filter)
    (worded : Token.scan source.toList ≠ []) : Disjunction (Token.scan source.toList) filter := by
  rcases ofTokens_eq_ok_iff.mp (read_eq_ok_iff.mp accepted) with ⟨none, _⟩ | derived
  · exact absurd none worded
  · exact derived

namespace Token

/-- A text that is put in front of a character that is no part of a word is cut by itself. -/
theorem scan_append_cons {c : Char} (apart : isWordChar c = false) (front back : List Char) :
    scan (front ++ c :: back) = scan front ++ scan (c :: back) := by
  refine scan_append fun _ _ d first _ => ?_
  cases first
  exact apart

theorem scan_parenthesized (inner behind : List Char) :
    scan ('(' :: (inner ++ ')' :: behind)) =
      .openParen :: (scan inner ++ [.closeParen]) ++ scan behind := by
  rw [scan, scan_append_cons (by decide), scan, List.cons_append, List.append_assoc,
    List.singleton_append]

/-- A keyword in small letters. -/
def ofKeyword (keyword : Keyword) : Token :=
  .word keyword.spelling.toList

theorem spells_ofKeyword (keyword : Keyword) : (ofKeyword keyword).Spells keyword :=
  ⟨_, rfl, by cases keyword <;> decide⟩

/-- A keyword in front of a blank is cut by itself. -/
theorem scan_keyword (keyword : Keyword) (back : List Char) :
    scan (keyword.spelling.toList ++ ' ' :: back) = ofKeyword keyword :: scan back := by
  have nonempty : keyword.spelling.toList ≠ [] := by cases keyword <;> decide
  have all : keyword.spelling.toList.all isWordChar = true := by cases keyword <;> decide
  have ends : ∀ c ∈ (' ' :: back).head?, isWordChar c = false := by
    intro c first
    cases first
    decide
  rw [scan_word nonempty (List.all_eq_true.mp all) ends, scan_blank (by decide), ofKeyword]

/-- A keyword between blanks stands between the words in front and behind. -/
theorem scan_infix (keyword : Keyword) (front back : List Char) :
    scan (front ++ ' ' :: (keyword.spelling.toList ++ ' ' :: back)) =
      scan front ++ ofKeyword keyword :: scan back := by
  rw [scan_append_cons (by decide), scan_blank (by decide), scan_keyword]

end Token

section Texts

variable {a b : String}

/-- With a keyword between parentheses, the words are those of a chain of two conditions. -/
theorem scan_parentheses_infix (keyword : Keyword) (front back : List Char) :
    Token.scan ('(' :: (front ++ ')' :: ' ' ::
        (keyword.spelling.toList ++ ' ' :: '(' :: (back ++ [')'])))) =
      (.openParen :: (Token.scan front ++ [.closeParen])) ++ Token.ofKeyword keyword ::
        (.openParen :: (Token.scan back ++ [.closeParen])) := by
  have last := Token.scan_parenthesized back []
  rw [Token.scan, List.append_nil] at last
  rw [Token.scan_parenthesized, Token.scan_blank (by decide), Token.scan_keyword, last]

theorem means_both (one : Disjunction (Token.scan a.toList) left)
    (two : Disjunction (Token.scan b.toList) right) :
    Means ("(" ++ a ++ ") and (" ++ b ++ ")") fun flow => left.holds flow && right.holds flow := by
  have text : ("(" ++ a ++ ") and (" ++ b ++ ")").toList = '(' :: (a.toList ++ ')' :: ' ' ::
      (Keyword.and.spelling.toList ++ ' ' :: '(' :: (b.toList ++ [')']))) := by
    simp [Keyword.spelling]
  have derived : Disjunction (Token.scan ("(" ++ a ++ ") and (" ++ b ++ ")").toList)
      (.both left right) := by
    rw [text, scan_parentheses_infix]
    exact .one (.more (.one (.parentheses one)) (Token.spells_ofKeyword .and) (.parentheses two))
  exact .of_disjunction derived fun _ => rfl

theorem means_either_parenthesized (one : Disjunction (Token.scan a.toList) left)
    (two : Disjunction (Token.scan b.toList) right) :
    Means ("(" ++ a ++ ") or (" ++ b ++ ")") fun flow => left.holds flow || right.holds flow := by
  have text : ("(" ++ a ++ ") or (" ++ b ++ ")").toList = '(' :: (a.toList ++ ')' :: ' ' ::
      (Keyword.or.spelling.toList ++ ' ' :: '(' :: (b.toList ++ [')']))) := by
    simp [Keyword.spelling]
  have derived : Disjunction (Token.scan ("(" ++ a ++ ") or (" ++ b ++ ")").toList)
      (.either left right) := by
    rw [text, scan_parentheses_infix]
    exact .more (.one (.one (.parentheses one))) (Token.spells_ofKeyword .or)
      (.one (.parentheses two))
  exact .of_disjunction derived fun _ => rfl

theorem means_negation (one : Disjunction (Token.scan a.toList) left) :
    Means ("not (" ++ a ++ ")") fun flow => !left.holds flow := by
  have text : ("not (" ++ a ++ ")").toList =
      Keyword.not.spelling.toList ++ ' ' :: '(' :: (a.toList ++ [')']) := by
    simp [Keyword.spelling]
  have last := Token.scan_parenthesized a.toList []
  rw [Token.scan, List.append_nil] at last
  have derived : Disjunction (Token.scan ("not (" ++ a ++ ")").toList) (.negation left) := by
    rw [text, Token.scan_keyword, last]
    exact .one (.one (.negation (Token.spells_ofKeyword .not) (.parentheses one)))
  exact .of_disjunction derived fun _ => rfl

/-- Without parentheses "or" puts operands one behind the other. -/
theorem means_either (one : Disjunction (Token.scan a.toList) left)
    (two : Disjunction (Token.scan b.toList) right) :
    Means (a ++ " or " ++ b) fun flow => left.holds flow || right.holds flow := by
  obtain ⟨filters, operands⟩ := one.exists_operands
  obtain ⟨filters', operands'⟩ := two.exists_operands
  have text : (a ++ " or " ++ b).toList =
      a.toList ++ ' ' :: (Keyword.or.spelling.toList ++ ' ' :: b.toList) := by
    simp [Keyword.spelling]
  have whole := operands.append (Token.spells_ofKeyword .or) operands'
  rw [← Token.scan_infix, ← text] at whole
  obtain ⟨filter, derived, means⟩ := whole.exists_disjunction
  refine .of_disjunction derived fun flow => ?_
  rw [means, List.any_append, ← operands.holds_eq one, ← operands'.holds_eq two]

/-- Without parentheses "and" joins the operands next to it. -/
theorem means_joined {before behind : List Filter} {last first : Filter}
    (one : Operands (Token.scan a.toList) (before ++ [last]))
    (two : Operands (Token.scan b.toList) (first :: behind)) :
    Means (a ++ " and " ++ b) fun flow => before.any (·.holds flow) ||
      last.holds flow && first.holds flow || behind.any (·.holds flow) := by
  have text : (a ++ " and " ++ b).toList =
      a.toList ++ ' ' :: (Keyword.and.spelling.toList ++ ' ' :: b.toList) := by
    simp [Keyword.spelling]
  obtain ⟨middle, whole, joined⟩ := one.join (Token.spells_ofKeyword .and) two
  rw [← Token.scan_infix, ← text] at whole
  obtain ⟨filter, derived, means⟩ := whole.exists_disjunction
  refine .of_disjunction derived fun flow => ?_
  rw [means, List.any_append, List.any_cons, joined, Bool.or_assoc]

end Texts

/-- Filter texts that are put together.  Take two texts that are accepted and are not blank.  Each in
parentheses, with "and" or "or" in between or with "not" in front, they mean what the word says of
their meanings; "or" does not need the parentheses.  Each text is a series of operands with "or"
between them, of which one has to hold; with "and" between two texts that are not in parentheses the
last operand of the first and the first operand of the second both have to, so where neither has an
"or" outside parentheses, both texts have to.  And texts that differ in the case of letters, in blanks
beside parentheses, or in what blanks stand between two words are read as the same tree, or are both
refused. -/
theorem filter_texts_compose :
    (∀ (a b : String) (left right : Filter), read a = .ok left → read b = .ok right →
      Token.scan a.toList ≠ [] → Token.scan b.toList ≠ [] →
        Means ("(" ++ a ++ ") and (" ++ b ++ ")") (fun flow => left.holds flow && right.holds flow) ∧
        Means ("(" ++ a ++ ") or (" ++ b ++ ")") (fun flow => left.holds flow || right.holds flow) ∧
        Means (a ++ " or " ++ b) (fun flow => left.holds flow || right.holds flow) ∧
        Means ("not (" ++ a ++ ")") (fun flow => !left.holds flow) ∧
        (∃ before last, Operands (Token.scan a.toList) (before ++ [last])) ∧
        (∃ first behind, Operands (Token.scan b.toList) (first :: behind)) ∧
        (∀ before last first behind, Operands (Token.scan a.toList) (before ++ [last]) →
          Operands (Token.scan b.toList) (first :: behind) →
            (∀ flow, left.holds flow = (before.any (·.holds flow) || last.holds flow)) ∧
            (∀ flow, right.holds flow = (first.holds flow || behind.any (·.holds flow))) ∧
            Means (a ++ " and " ++ b) fun flow =>
              before.any (·.holds flow) || last.holds flow && first.holds flow ||
                behind.any (·.holds flow)) ∧
        (¬ HasOuterOr (Token.scan a.toList) → ¬ HasOuterOr (Token.scan b.toList) →
          Means (a ++ " and " ++ b) fun flow => left.holds flow && right.holds flow)) ∧
      ∀ source other : String, Relation.EqvGen Respelling source.toList other.toList →
        ∀ filter, read source = .ok filter ↔ read other = .ok filter := by
  refine ⟨?_, fun source other respelt filter => read_respelled respelt⟩
  intro a b left right accepted accepted' worded worded'
  have one := disjunction_of_read accepted worded
  have two := disjunction_of_read accepted' worded'
  refine ⟨means_both one two, means_either_parenthesized one two, means_either one two,
    means_negation one, ?_, ?_, ?_, fun single single' => ?_⟩
  · obtain ⟨filters, operands⟩ := one.exists_operands
    rw [← List.dropLast_concat_getLast operands.ne_nil] at operands
    exact ⟨_, _, operands⟩
  · obtain ⟨filters, operands⟩ := two.exists_operands
    obtain ⟨first, behind, rfl⟩ := List.exists_cons_of_ne_nil operands.ne_nil
    exact ⟨first, behind, operands⟩
  · intro before last first behind operands operands'
    refine ⟨fun flow => ?_, fun flow => ?_, means_joined operands operands'⟩
    · rw [operands.holds_eq one, List.any_append, List.any_cons, List.any_nil, Bool.or_false]
    · rw [operands'.holds_eq two, List.any_cons]
  · have operand : Operands (Token.scan a.toList) ([] ++ [left]) :=
      one.operands_of_no_outer_or single
    simpa using means_joined operand (two.operands_of_no_outer_or single')

theorem filter_texts_compose_of_samples :
    Means ("(" ++ "udp or port 53" ++ ") and (" ++ "tcp" ++ ")") (fun flow =>
      (Filter.either (.transport .udp) (.port 53)).holds flow && (Filter.transport .tcp).holds flow) ∧
    Means ("udp or port 53" ++ " and " ++ "tcp") (fun flow =>
      (Filter.transport .udp).holds flow ||
        (Filter.port 53).holds flow && (Filter.transport .tcp).holds flow) ∧
    ∀ filter, read "not (tcp)" = .ok filter ↔ read "NOT(tcp)" = .ok filter := by
  obtain ⟨compose, respell⟩ := filter_texts_compose
  have accepted : read "udp or port 53" = .ok (.either (.transport .udp) (.port 53)) := by cbv
  have accepted' : read "tcp" = .ok (.transport .tcp) := by cbv
  have words : Token.scan "udp or port 53".toList = [.word ['u', 'd', 'p']] ++
      .word ['o', 'r'] :: [.word ['p', 'o', 'r', 't'], .word ['5', '3']] := by cbv
  have words' : Token.scan "tcp".toList = [.word ['t', 'c', 'p']] := by cbv
  have worded : Token.scan "udp or port 53".toList ≠ [] := by
    rw [words]
    exact List.cons_ne_nil _ _
  have worded' : Token.scan "tcp".toList ≠ [] := by
    rw [words']
    exact List.cons_ne_nil _ _
  obtain ⟨both, _, _, _, _, _, joined, _⟩ :=
    compose "udp or port 53" "tcp" _ _ accepted accepted' worded worded'
  refine ⟨both, ?_, fun filter => respell _ _ ?_ filter⟩
  · have udp : Conjunction [.word ['u', 'd', 'p']] (.transport .udp) := .one (.udp ⟨_, rfl, rfl⟩)
    have port : Conjunction [.word ['p', 'o', 'r', 't'], .word ['5', '3']] (.port 53) :=
      .one (.port ⟨_, rfl, rfl⟩ rfl)
    have tcp : Conjunction [.word ['t', 'c', 'p']] (.transport .tcp) := .one (.tcp ⟨_, rfl, rfl⟩)
    have operands : Operands (Token.scan "udp or port 53".toList)
        ([.transport .udp] ++ [.port 53]) := by
      rw [words]
      exact .more (.one udp) ⟨_, rfl, rfl⟩ port
    have operands' : Operands (Token.scan "tcp".toList) [.transport .tcp] := by
      rw [words']
      exact .one tcp
    simpa using (joined _ _ _ _ operands operands').2.2
  · have blank : ∀ c ∈ [' '], isBlank c = true := List.all_eq_true.mp rfl
    have smaller : Respelling "not (tcp)".toList "not(tcp)".toList := by
      simpa using Respelling.before ['n', 'o', 't'] ['t', 'c', 'p', ')'] blank (.inl rfl)
    exact .trans _ _ _ (.rel _ _ smaller) (.rel _ _ (.letters (by decide)))

end TrafficMeter.Net.Filter
