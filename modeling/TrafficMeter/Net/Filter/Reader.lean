/-
Module: TrafficMeter.Net.Filter.Reader
Purpose: Read a filter text by its grammar, in which "not" binds tightest and "or" loosest:

    disjunction := conjunction ("or" conjunction)*
    conjunction := primary ("and" primary)*
    primary := "tcp" | "udp" | "port" number | "host" address | "(" disjunction ")" | "not" primary

  An empty text accepts every flow.
Main exports: Filter.Fault, Filter.ReadError, Filter.read
-/
import TrafficMeter.Net.Filter
import TrafficMeter.Net.Filter.Token
import TrafficMeter.Net.IpAddress.Reader

namespace TrafficMeter.Net.Filter

open Text

/-- What is wrong with a filter text. -/
inductive Fault where
  /-- the text ends where a condition should begin -/
  | unexpectedEnd
  /-- the text ends where a port should stand -/
  | missingPort
  /-- a word where a port should stand is none -/
  | invalidPort (token : Token)
  /-- the text ends where an address should stand -/
  | missingHost
  /-- a word where an address should stand is none -/
  | invalidHost (token : Token)
  /-- a parenthesis is not closed where its condition ends -/
  | unbalanced
  /-- no condition begins with this word -/
  | unknownKeyword (token : Token)
  /-- a word is left over behind the condition -/
  | unexpectedToken (token : Token)
deriving DecidableEq, Repr

def Fault.message : Fault → String
  | .unexpectedEnd => "unexpected end of expression"
  | .missingPort => "missing port"
  | .invalidPort token => s!"invalid port '{token.text}'"
  | .missingHost => "missing host"
  | .invalidHost token => s!"invalid host '{token.text}'"
  | .unbalanced => "unbalanced parenthesis"
  | .unknownKeyword token => s!"unknown keyword '{String.ofList (asciiLower token.chars)}'"
  | .unexpectedToken token => s!"unexpected token '{token.text}'"

/-- The tokens left over by a reader that consumed at least one of the tokens before them. -/
abbrev Rest (tokens : List Token) := { rest : List Token // rest.length < tokens.length }

/-- The tokens left over by a reader that may have consumed none. -/
abbrev Tail (tokens : List Token) := { rest : List Token // rest.length ≤ tokens.length }

/-- A port operand: a decimal number below 65536. -/
def readPort? (token : Token) : Option UInt16 :=
  (readUnsigned? 10 65536 token.chars).map UInt16.ofNat

/-- A host operand: an internet address. -/
def readHost? (token : Token) : Option IpAddress :=
  IpAddress.read? token.text

mutual

/-- Read a condition that is no chain. -/
def readPrimary (tokens : List Token) : Except Fault (Filter × Rest tokens) :=
  match tokens with
  | [] => .error .unexpectedEnd
  | .openParen :: rest =>
      match readDisjunction rest with
      | .error fault => .error fault
      | .ok (inner, ⟨.closeParen :: behind, h⟩) =>
          .ok (inner, ⟨behind, by simp only [List.length_cons] at h ⊢; omega⟩)
      | .ok _ => .error .unbalanced
  | token :: rest =>
      match token.keyword? with
      | some .tcp => .ok (.transport .tcp, ⟨rest, by simp only [List.length_cons]; omega⟩)
      | some .udp => .ok (.transport .udp, ⟨rest, by simp only [List.length_cons]; omega⟩)
      | some .not =>
          match readPrimary rest with
          | .error fault => .error fault
          | .ok (inner, ⟨behind, h⟩) =>
              .ok (.negation inner, ⟨behind, by simp only [List.length_cons]; omega⟩)
      | some .port =>
          match rest with
          | [] => .error .missingPort
          | operand :: behind =>
              match readPort? operand with
              | some number =>
                  .ok (.port number, ⟨behind, by simp only [List.length_cons]; omega⟩)
              | none => .error (.invalidPort operand)
      | some .host =>
          match rest with
          | [] => .error .missingHost
          | operand :: behind =>
              match readHost? operand with
              | some address =>
                  .ok (.host address, ⟨behind, by simp only [List.length_cons]; omega⟩)
              | none => .error (.invalidHost operand)
      | _ => .error (.unknownKeyword token)
  termination_by (tokens.length, 0)

/-- Read the further members of a conjunction whose first ones amount to `left`. -/
def readConjuncts (left : Filter) (tokens : List Token) :
    Except Fault (Filter × Tail tokens) :=
  match tokens with
  | [] => .ok (left, ⟨[], Nat.le_refl _⟩)
  | token :: rest =>
      if token.keyword? = some .and then
        match readPrimary rest with
        | .error fault => .error fault
        | .ok (right, ⟨behind, h⟩) =>
            match readConjuncts (.both left right) behind with
            | .error fault => .error fault
            | .ok (whole, ⟨last, h'⟩) =>
                .ok (whole, ⟨last, by simp only [List.length_cons]; omega⟩)
      else .ok (left, ⟨token :: rest, Nat.le_refl _⟩)
  termination_by (tokens.length, 1)

def readConjunction (tokens : List Token) : Except Fault (Filter × Rest tokens) :=
  match readPrimary tokens with
  | .error fault => .error fault
  | .ok (left, ⟨rest, h⟩) =>
      match readConjuncts left rest with
      | .error fault => .error fault
      | .ok (whole, ⟨behind, h'⟩) => .ok (whole, ⟨behind, by omega⟩)
  termination_by (tokens.length, 2)

/-- Read the further members of a disjunction whose first ones amount to `left`. -/
def readDisjuncts (left : Filter) (tokens : List Token) :
    Except Fault (Filter × Tail tokens) :=
  match tokens with
  | [] => .ok (left, ⟨[], Nat.le_refl _⟩)
  | token :: rest =>
      if token.keyword? = some .or then
        match readConjunction rest with
        | .error fault => .error fault
        | .ok (right, ⟨behind, h⟩) =>
            match readDisjuncts (.either left right) behind with
            | .error fault => .error fault
            | .ok (whole, ⟨last, h'⟩) =>
                .ok (whole, ⟨last, by simp only [List.length_cons]; omega⟩)
      else .ok (left, ⟨token :: rest, Nat.le_refl _⟩)
  termination_by (tokens.length, 3)

def readDisjunction (tokens : List Token) : Except Fault (Filter × Rest tokens) :=
  match readConjunction tokens with
  | .error fault => .error fault
  | .ok (left, ⟨rest, h⟩) =>
      match readDisjuncts left rest with
      | .error fault => .error fault
      | .ok (whole, ⟨behind, h'⟩) => .ok (whole, ⟨behind, by omega⟩)
  termination_by (tokens.length, 4)

end

/-- Read all tokens as one condition; none at all accept every flow. -/
def ofTokens : List Token → Except Fault Filter
  | [] => .ok .any
  | tokens =>
      match readDisjunction tokens with
      | .error fault => .error fault
      | .ok (filter, ⟨[], _⟩) => .ok filter
      | .ok (_, ⟨token :: _, _⟩) => .error (.unexpectedToken token)

/-- A filter text that cannot be read, and why. -/
structure ReadError where
  fault : Fault
  source : String
deriving DecidableEq, Repr

/-- The wording of a read error: the fault and the text that has it. -/
def ReadError.message (error : ReadError) : String :=
  s!"{error.fault.message} in '{error.source}'"

def read (source : String) : Except ReadError Filter :=
  (ofTokens (Token.scan source.toList)).mapError fun fault => ⟨fault, source⟩

end TrafficMeter.Net.Filter
