/-
Module: TrafficMeter.Proofs.FilterGrammar
Purpose: The grammar of filter texts as relations between words and trees, and the reader against it.
  What the grammar derives, the reader reads, and it reads nothing else; so the tree of a text is
  unique, and every text without one is refused.  Chains grow at their right end, which makes their
  trees lean to the left; a conjunction has no disjunction among its members but in parentheses.
Main exports: Filter.Primary, Filter.Conjunction, Filter.Disjunction, Filter.readDisjunction_iff,
  Filter.read_iff_derivable
-/
import TrafficMeter.Net.Filter.Reader
import TrafficMeter.Proofs.FilterWords

namespace TrafficMeter.Net.Filter

/-! ### The grammar -/

mutual

/-- Tokens that are a condition and no chain, with its tree. -/
inductive Primary : List Token → Filter → Prop where
  | tcp {token : Token} (spelt : token.Spells .tcp) : Primary [token] (.transport .tcp)
  | udp {token : Token} (spelt : token.Spells .udp) : Primary [token] (.transport .udp)
  | port {token operand : Token} {number : UInt16} (spelt : token.Spells .port)
      (valid : readPort? operand = some number) : Primary [token, operand] (.port number)
  | host {token operand : Token} {address : IpAddress} (spelt : token.Spells .host)
      (valid : readHost? operand = some address) : Primary [token, operand] (.host address)
  | negation {token : Token} {tokens : List Token} {inner : Filter} (spelt : token.Spells .not)
      (derived : Primary tokens inner) : Primary (token :: tokens) (.negation inner)
  | parentheses {tokens : List Token} {inner : Filter} (derived : Disjunction tokens inner) :
      Primary (.openParen :: (tokens ++ [.closeParen])) inner

/-- Tokens that are one or more such conditions with "and" between them. -/
inductive Conjunction : List Token → Filter → Prop where
  | one {tokens : List Token} {filter : Filter} (derived : Primary tokens filter) :
      Conjunction tokens filter
  | more {front back : List Token} {token : Token} {left right : Filter}
      (first : Conjunction front left) (spelt : token.Spells .and) (last : Primary back right) :
      Conjunction (front ++ token :: back) (.both left right)

/-- Tokens that are one or more conjunctions with "or" between them. -/
inductive Disjunction : List Token → Filter → Prop where
  | one {tokens : List Token} {filter : Filter} (derived : Conjunction tokens filter) :
      Disjunction tokens filter
  | more {front back : List Token} {token : Token} {left right : Filter}
      (first : Disjunction front left) (spelt : token.Spells .or) (last : Conjunction back right) :
      Disjunction (front ++ token :: back) (.either left right)

end

/-! ### Single steps of the reader -/

/-- A reader has read a filter and left these tokens over. -/
def Reads {Left : List Token → Prop}
    (result : Except Fault (Filter × { rest : List Token // Left rest })) (filter : Filter)
    (rest : List Token) : Prop :=
  ∃ left, result = .ok (filter, ⟨rest, left⟩)

/-- The first token spells the keyword. -/
def Begins (keyword : Keyword) (tokens : List Token) : Prop :=
  ∃ token ∈ tokens.head?, token.Spells keyword

variable {tokens rest : List Token} {filter : Filter}

@[simp] theorem not_reads_error {Left : List Token → Prop} {fault : Fault} :
    ¬ @Reads Left (.error fault) filter rest := by
  rintro ⟨_, read⟩
  cases read

@[simp] theorem reads_ok {Left : List Token → Prop}
    {read : Filter × { rest : List Token // Left rest }} :
    Reads (.ok read) filter rest ↔ filter = read.1 ∧ rest = read.2.1 := by
  constructor
  · rintro ⟨_, same⟩
    cases same
    exact ⟨rfl, rfl⟩
  · rintro ⟨rfl, rfl⟩
    exact ⟨read.2.2, rfl⟩

/-- What is read and what is left over are both told by the tokens. -/
theorem Reads.unique {Left : List Token → Prop}
    {result : Except Fault (Filter × { rest : List Token // Left rest })} {other : Filter}
    {rest' : List Token} (one : Reads result filter rest) (two : Reads result other rest') :
    filter = other ∧ rest = rest' := by
  obtain ⟨_, rfl⟩ := one
  obtain ⟨rfl, rfl⟩ := reads_ok.mp two
  exact ⟨rfl, rfl⟩

/-- What is left over is so much shorter as the reader says. -/
theorem Reads.left {Left : List Token → Prop}
    {result : Except Fault (Filter × { rest : List Token // Left rest })}
    (read : Reads result filter rest) : Left rest := by
  obtain ⟨left, _⟩ := read
  exact left

/-- A conjunction begins with a member and goes on with further ones. -/
theorem reads_conjunction :
    Reads (readConjunction tokens) filter rest ↔ ∃ left behind,
      Reads (readPrimary tokens) left behind ∧ Reads (readConjuncts left behind) filter rest := by
  rw [readConjunction]
  cases readPrimary tokens with
  | error fault => simp
  | ok read =>
      obtain ⟨left, behind, _⟩ := read
      cases later : readConjuncts left behind with
      | error fault => simp [later, and_assoc]
      | ok read => simp [later, and_assoc]

/-- A filter is read operand by operand, the first of them before any `or`. -/
theorem reads_disjunction :
    Reads (readDisjunction tokens) filter rest ↔ ∃ left behind,
      Reads (readConjunction tokens) left behind ∧ Reads (readDisjuncts left behind) filter rest := by
  rw [readDisjunction]
  cases readConjunction tokens with
  | error fault => simp
  | ok read =>
      obtain ⟨left, behind, _⟩ := read
      cases later : readDisjuncts left behind with
      | error fault => simp [later, and_assoc]
      | ok read => simp [later, and_assoc]

/-- An `and` leads to one more primary, on the right of those before. -/
theorem reads_conjuncts_cons {left : Filter} {token : Token} (spelt : token.Spells .and) :
    Reads (readConjuncts left (token :: tokens)) filter rest ↔ ∃ right behind,
      Reads (readPrimary tokens) right behind ∧
        Reads (readConjuncts (.both left right) behind) filter rest := by
  rw [readConjuncts, if_pos (Token.keyword?_eq_some_iff.mpr spelt)]
  cases readPrimary tokens with
  | error fault => simp
  | ok read =>
      obtain ⟨right, behind, _⟩ := read
      cases later : readConjuncts (.both left right) behind with
      | error fault => simp [later, and_assoc]
      | ok read => simp [later, and_assoc]

/-- An `or` leads to one more conjunction, on the right of those before. -/
theorem reads_disjuncts_cons {left : Filter} {token : Token} (spelt : token.Spells .or) :
    Reads (readDisjuncts left (token :: tokens)) filter rest ↔ ∃ right behind,
      Reads (readConjunction tokens) right behind ∧
        Reads (readDisjuncts (.either left right) behind) filter rest := by
  rw [readDisjuncts, if_pos (Token.keyword?_eq_some_iff.mpr spelt)]
  cases readConjunction tokens with
  | error fault => simp
  | ok read =>
      obtain ⟨right, behind, _⟩ := read
      cases later : readDisjuncts (.either left right) behind with
      | error fault => simp [later, and_assoc]
      | ok read => simp [later, and_assoc]

/-- A chain ends where its keyword does not stand. -/
theorem reads_conjuncts_end {left : Filter} (ends : ¬ Begins .and tokens) :
    Reads (readConjuncts left tokens) filter rest ↔ filter = left ∧ rest = tokens := by
  rw [readConjuncts.eq_def]
  cases tokens with
  | nil => exact reads_ok
  | cons token others =>
      have other : token.keyword? ≠ some .and := fun found =>
        ends ⟨token, rfl, Token.keyword?_eq_some_iff.mp found⟩
      dsimp only
      rw [if_neg other]
      exact reads_ok

theorem reads_disjuncts_end {left : Filter} (ends : ¬ Begins .or tokens) :
    Reads (readDisjuncts left tokens) filter rest ↔ filter = left ∧ rest = tokens := by
  rw [readDisjuncts.eq_def]
  cases tokens with
  | nil => exact reads_ok
  | cons token others =>
      have other : token.keyword? ≠ some .or := fun found =>
        ends ⟨token, rfl, Token.keyword?_eq_some_iff.mp found⟩
      dsimp only
      rw [if_neg other]
      exact reads_ok

/-- A parenthesis leads to a whole filter, and to the parenthesis that closes it. -/
theorem reads_parentheses :
    Reads (readPrimary (.openParen :: tokens)) filter rest ↔
      Reads (readDisjunction tokens) filter (.closeParen :: rest) := by
  rw [readPrimary]
  cases readDisjunction tokens with
  | error fault => simp
  | ok read =>
      obtain ⟨inner, left, _⟩ := read
      cases left with
      | nil => simp
      | cons token behind => cases token <;> simp

/-- What stands behind the keyword that a condition begins with. -/
theorem reads_keyword {token : Token} {keyword : Keyword} (spelt : token.Spells keyword) :
    Reads (readPrimary (token :: tokens)) filter rest ↔
      match keyword with
      | .tcp => filter = .transport .tcp ∧ rest = tokens
      | .udp => filter = .transport .udp ∧ rest = tokens
      | .not => ∃ inner, Reads (readPrimary tokens) inner rest ∧ filter = .negation inner
      | .port => ∃ operand number, tokens = operand :: rest ∧ readPort? operand = some number ∧
          filter = .port number
      | .host => ∃ operand address, tokens = operand :: rest ∧ readHost? operand = some address ∧
          filter = .host address
      | .and => False
      | .or => False := by
  have found := Token.keyword?_eq_some_iff.mpr spelt
  obtain ⟨text, rfl, _⟩ := spelt
  rw [readPrimary.eq_def]
  simp only [found]
  cases keyword with
  | tcp => simp
  | udp => simp
  | and => simp
  | or => simp
  | not =>
      cases readPrimary tokens with
      | error fault => simp
      | ok read => simp [and_comm, and_assoc]
  | port =>
      cases tokens with
      | nil => simp
      | cons operand behind =>
          cases valid : readPort? operand with
          | none => simp [valid]
          | some number => grind [reads_ok]
  | host =>
      cases tokens with
      | nil => simp
      | cons operand behind =>
          cases valid : readHost? operand with
          | none => simp [valid]
          | some address => grind [reads_ok]

/-- No filter begins with a word that is no keyword. -/
theorem not_reads_unknown {token : Token} (word : token ≠ .openParen)
    (unknown : token.keyword? = none) : ¬ Reads (readPrimary (token :: tokens)) filter rest := by
  rw [readPrimary.eq_def]
  cases token with
  | openParen => exact absurd rfl word
  | closeParen => simp [unknown]
  | word text => simp [unknown]

/-! ### What is derived is read -/

/-- Tokens begin with one keyword at most. -/
theorem Begins.unique {one other : Keyword} (first : Begins one tokens)
    (second : Begins other tokens) : one = other := by
  obtain ⟨token, here, spelt⟩ := first
  obtain ⟨token', here', spelt'⟩ := second
  cases here.symm.trans here'
  exact spelt.unique spelt'

theorem begins_cons {token : Token} {keyword : Keyword} (spelt : token.Spells keyword) :
    Begins keyword (token :: tokens) :=
  ⟨token, rfl, spelt⟩

/-- A closing parenthesis is no keyword, and so ends both loops. -/
theorem not_begins_closeParen (keyword : Keyword) : ¬ Begins keyword (.closeParen :: tokens) := by
  rintro ⟨token, here, text, word, _⟩
  cases here
  cases word

mutual

/-- A condition that is no chain is read whatever stands behind it. -/
theorem Primary.reads : ∀ {tokens : List Token} {filter : Filter}, Primary tokens filter →
    ∀ rest, Reads (readPrimary (tokens ++ rest)) filter rest
  | _, _, .tcp spelt, rest => (reads_keyword spelt).mpr ⟨rfl, rfl⟩
  | _, _, .udp spelt, rest => (reads_keyword spelt).mpr ⟨rfl, rfl⟩
  | _, _, .port spelt valid, rest => (reads_keyword spelt).mpr ⟨_, _, rfl, valid, rfl⟩
  | _, _, .host spelt valid, rest => (reads_keyword spelt).mpr ⟨_, _, rfl, valid, rfl⟩
  | _, _, .negation spelt derived, rest =>
      (reads_keyword spelt).mpr ⟨_, derived.reads rest, rfl⟩
  | _, _, @Primary.parentheses tokens inner derived, rest => by
      have whole : Token.openParen :: (tokens ++ [.closeParen]) ++ rest =
          .openParen :: (tokens ++ .closeParen :: rest) := by
        rw [List.cons_append, List.append_assoc, List.singleton_append]
      rw [whole, reads_parentheses]
      apply derived.reads (not_begins_closeParen .and)
      exact (reads_disjuncts_end (not_begins_closeParen .or)).mpr ⟨rfl, rfl⟩

/-- Behind a conjunction the reader goes on with what its tree has become. -/
theorem Conjunction.reads : ∀ {tokens : List Token} {filter : Filter}, Conjunction tokens filter →
    ∀ {rest : List Token} {whole : Filter} {last : List Token},
      Reads (readConjuncts filter rest) whole last →
        Reads (readConjunction (tokens ++ rest)) whole last
  | _, _, .one derived, rest, _, _, later =>
      reads_conjunction.mpr ⟨_, _, derived.reads rest, later⟩
  | _, _, @Conjunction.more front back token _ _ first spelt last, rest, _, _, later => by
      rw [List.append_assoc, List.cons_append]
      apply first.reads
      exact (reads_conjuncts_cons spelt).mpr ⟨_, _, last.reads rest, later⟩

/-- A derived filter is read from its tokens, with whatever follows them; the recursion is on the
derivation, and stops at what no loop goes on with. -/
theorem Disjunction.reads : ∀ {tokens : List Token} {filter : Filter}, Disjunction tokens filter →
    ∀ {rest : List Token} {whole : Filter} {last : List Token}, ¬ Begins .and rest →
      Reads (readDisjuncts filter rest) whole last →
        Reads (readDisjunction (tokens ++ rest)) whole last
  | _, _, .one derived, rest, _, _, ends, later => by
      have member := derived.reads ((reads_conjuncts_end ends).mpr ⟨rfl, rfl⟩)
      exact reads_disjunction.mpr ⟨_, _, member, later⟩
  | _, _, @Disjunction.more front back token _ _ first spelt last, rest, _, _, ends, later => by
      have member := last.reads ((reads_conjuncts_end ends).mpr ⟨rfl, rfl⟩)
      rw [List.append_assoc, List.cons_append]
      apply first.reads
      · intro other
        cases (begins_cons spelt).unique other
      · exact (reads_disjuncts_cons spelt).mpr ⟨_, _, member, later⟩

end

/-! ### What is read is derived -/

mutual

/-- What was read as a primary is derived from the tokens that are gone; by induction on the tokens,
as parentheses lead back to whole filters. -/
theorem primary_of_reads {tokens : List Token} {filter : Filter} {rest : List Token}
    (read : Reads (readPrimary tokens) filter rest) :
    ∃ front, tokens = front ++ rest ∧ Primary front filter := by
  match tokens with
  | [] =>
      rw [readPrimary] at read
      exact absurd read not_reads_error
  | .openParen :: others =>
      obtain ⟨front, rfl, derived⟩ := disjunction_of_reads (reads_parentheses.mp read)
      refine ⟨.openParen :: (front ++ [.closeParen]), ?_, .parentheses derived⟩
      rw [List.cons_append, List.append_assoc, List.singleton_append]
  | .closeParen :: others => exact absurd read (not_reads_unknown (by simp) rfl)
  | .word text :: others =>
      cases found : (Token.word text).keyword? with
      | none => exact absurd read (not_reads_unknown (by simp) found)
      | some keyword =>
          have spelt := Token.keyword?_eq_some_iff.mp found
          have behind := (reads_keyword spelt).mp read
          cases keyword with
          | tcp =>
              obtain ⟨rfl, rfl⟩ := behind
              exact ⟨[_], rfl, .tcp spelt⟩
          | udp =>
              obtain ⟨rfl, rfl⟩ := behind
              exact ⟨[_], rfl, .udp spelt⟩
          | not =>
              obtain ⟨inner, further, rfl⟩ := behind
              obtain ⟨front, rfl, derived⟩ := primary_of_reads further
              exact ⟨_ :: front, rfl, .negation spelt derived⟩
          | port =>
              obtain ⟨operand, number, rfl, valid, rfl⟩ := behind
              exact ⟨[_, operand], rfl, .port spelt valid⟩
          | host =>
              obtain ⟨operand, address, rfl, valid, rfl⟩ := behind
              exact ⟨[_, operand], rfl, .host spelt valid⟩
          | and => cases behind
          | or => cases behind
  termination_by (tokens.length, 0)

/-- What is read behind the first members of a conjunction makes a longer one of them. -/
theorem conjunction_of_reads_conjuncts {tokens : List Token} {left filter : Filter}
    {rest before : List Token} (first : Conjunction before left)
    (read : Reads (readConjuncts left tokens) filter rest) :
    ∃ front, tokens = front ++ rest ∧ Conjunction (before ++ front) filter ∧ ¬ Begins .and rest := by
  by_cases goesOn : Begins .and tokens
  · obtain ⟨token, here, spelt⟩ := goesOn
    obtain ⟨others, rfl⟩ := List.head?_eq_some_iff.mp here
    obtain ⟨right, behind, one, later⟩ := (reads_conjuncts_cons spelt).mp read
    have shorter : behind.length < others.length := one.left
    obtain ⟨member, rfl, derived⟩ := primary_of_reads one
    obtain ⟨front, rfl, whole, ends⟩ :=
      conjunction_of_reads_conjuncts (first.more spelt derived) later
    refine ⟨token :: (member ++ front), ?_, ?_, ends⟩
    · rw [List.cons_append, List.append_assoc]
    · rwa [List.append_assoc, List.cons_append] at whole
  · obtain ⟨rfl, rfl⟩ := (reads_conjuncts_end goesOn).mp read
    exact ⟨[], rfl, by rwa [List.append_nil], goesOn⟩
  termination_by (tokens.length, 1)

/-- What was read as a conjunction is derived, and no `and` is left over. -/
theorem conjunction_of_reads {tokens : List Token} {filter : Filter} {rest : List Token}
    (read : Reads (readConjunction tokens) filter rest) :
    ∃ front, tokens = front ++ rest ∧ Conjunction front filter ∧ ¬ Begins .and rest := by
  obtain ⟨left, behind, one, later⟩ := reads_conjunction.mp read
  have shorter : behind.length < tokens.length := one.left
  obtain ⟨member, rfl, derived⟩ := primary_of_reads one
  obtain ⟨front, rfl, whole, ends⟩ := conjunction_of_reads_conjuncts (.one derived) later
  exact ⟨member ++ front, (List.append_assoc _ _ _).symm, whole, ends⟩
  termination_by (tokens.length, 2)

/-- Operands that were read behind others are derived with them. -/
theorem disjunction_of_reads_disjuncts {tokens : List Token} {left filter : Filter}
    {rest before : List Token} (first : Disjunction before left)
    (read : Reads (readDisjuncts left tokens) filter rest) :
    ∃ front, tokens = front ++ rest ∧ Disjunction (before ++ front) filter := by
  by_cases goesOn : Begins .or tokens
  · obtain ⟨token, here, spelt⟩ := goesOn
    obtain ⟨others, rfl⟩ := List.head?_eq_some_iff.mp here
    obtain ⟨right, behind, one, later⟩ := (reads_disjuncts_cons spelt).mp read
    have shorter : behind.length < others.length := one.left
    obtain ⟨member, rfl, derived, _⟩ := conjunction_of_reads one
    obtain ⟨front, rfl, whole⟩ :=
      disjunction_of_reads_disjuncts (first.more spelt derived) later
    refine ⟨token :: (member ++ front), ?_, ?_⟩
    · rw [List.cons_append, List.append_assoc]
    · rwa [List.append_assoc, List.cons_append] at whole
  · obtain ⟨rfl, rfl⟩ := (reads_disjuncts_end goesOn).mp read
    exact ⟨[], rfl, by rwa [List.append_nil]⟩
  termination_by (tokens.length, 3)

/-- What was read as a whole filter is derived from the tokens that are gone. -/
theorem disjunction_of_reads {tokens : List Token} {filter : Filter} {rest : List Token}
    (read : Reads (readDisjunction tokens) filter rest) :
    ∃ front, tokens = front ++ rest ∧ Disjunction front filter := by
  obtain ⟨left, behind, one, later⟩ := reads_disjunction.mp read
  have shorter : behind.length < tokens.length := one.left
  obtain ⟨member, rfl, derived, _⟩ := conjunction_of_reads one
  obtain ⟨front, rfl, whole⟩ := disjunction_of_reads_disjuncts (.one derived) later
  exact ⟨member ++ front, (List.append_assoc _ _ _).symm, whole⟩
  termination_by (tokens.length, 4)

end

/-! ### The reader and the grammar -/

theorem not_begins_nil (keyword : Keyword) : ¬ Begins keyword [] := by
  rintro ⟨token, none, _⟩
  cases none

/-- The reader uses up exactly the tokens that are a disjunction. -/
theorem readDisjunction_iff :
    Reads (readDisjunction tokens) filter [] ↔ Disjunction tokens filter := by
  constructor
  · intro read
    obtain ⟨front, rfl, derived⟩ := disjunction_of_reads read
    rwa [List.append_nil]
  · intro derived
    have read := derived.reads (not_begins_nil .and)
      ((reads_disjuncts_end (not_begins_nil .or)).mpr ⟨rfl, rfl⟩)
    rwa [List.append_nil] at read

/-- Every filter but the empty one has a token. -/
theorem Disjunction.ne_nil (derived : Disjunction tokens filter) : tokens ≠ [] := by
  rintro rfl
  have shorter := (readDisjunction_iff.mpr derived).left
  cases shorter

/-- Tokens mean one filter at most, since reading finds it. -/
theorem Disjunction.unique {other : Filter} (one : Disjunction tokens filter)
    (two : Disjunction tokens other) : filter = other :=
  ((readDisjunction_iff.mpr one).unique (readDisjunction_iff.mpr two)).1

/-- Tokens are accepted exactly if they are derivable to their end; no tokens accept everything. -/
theorem ofTokens_eq_ok_iff :
    ofTokens tokens = .ok filter ↔ tokens = [] ∧ filter = .any ∨ Disjunction tokens filter := by
  by_cases none : tokens = []
  · subst none
    have never : ¬ Disjunction [] filter := fun derived => derived.ne_nil rfl
    simp [ofTokens, never, eq_comm]
  · rw [← readDisjunction_iff, ofTokens.eq_2 tokens none]
    cases readDisjunction tokens with
    | error fault => simp [none]
    | ok read =>
        obtain ⟨whole, left, _⟩ := read
        cases left with
        | nil => simp [none, eq_comm]
        | cons token behind => simp [none]

theorem read_eq_ok_iff {source : String} :
    read source = .ok filter ↔ ofTokens (Token.scan source.toList) = .ok filter := by
  rw [read]
  cases ofTokens (Token.scan source.toList) <;> simp [Except.mapError]

/-- A text is refused, with what is wrong with it, if it is not read. -/
theorem read_eq_error_iff {source : String} :
    (∃ fault, read source = .error ⟨fault, source⟩) ↔ ∀ filter, read source ≠ .ok filter := by
  rw [read]
  cases ofTokens (Token.scan source.toList) <;> simp [Except.mapError]

/-- A filter text is cut into words in one way.  It is read exactly if there are none of them, as the
filter that accepts every flow, or if the grammar derives them, as the only tree that it derives for
them; any other text is refused. -/
theorem read_iff_derivable (source : String) :
    ∃ tokens, (∀ other, Token.Cut source.toList other ↔ other = tokens) ∧
      (∀ filter, read source = .ok filter ↔
        tokens = [] ∧ filter = .any ∨ Disjunction tokens filter) ∧
      (∀ filter other, Disjunction tokens filter → Disjunction tokens other → filter = other) ∧
      ((∃ fault, read source = .error ⟨fault, source⟩) ↔
        tokens ≠ [] ∧ ∀ filter, ¬ Disjunction tokens filter) := by
  let tokens := Token.scan source.toList
  have accepted : ∀ filter, read source = .ok filter ↔
      tokens = [] ∧ filter = .any ∨ Disjunction tokens filter := fun filter =>
    read_eq_ok_iff.trans ofTokens_eq_ok_iff
  refine ⟨tokens, fun other => Token.cut_iff_scan, accepted, fun _ _ one two => one.unique two, ?_⟩
  rw [read_eq_error_iff]
  constructor
  · intro refused
    refine ⟨fun none => ?_, fun filter derived => ?_⟩
    · exact refused .any ((accepted .any).mpr (.inl ⟨none, rfl⟩))
    · exact refused filter ((accepted filter).mpr (.inr derived))
  · rintro ⟨words, underivable⟩ filter read
    rcases (accepted filter).mp read with ⟨none, _⟩ | derived
    · exact words none
    · exact underivable filter derived

/-- "not" takes the shortest condition behind it, and "and" binds tighter than "or". -/
example : read "NOT tcp and port 7 or (udp)" = .ok (.either
    (.both (.negation (.transport .tcp)) (.port 7)) (.transport .udp)) := by
  cbv

end TrafficMeter.Net.Filter
