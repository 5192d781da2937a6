/-
Module: TrafficMeter.Net.Filter.Token
Purpose: The words of a filter text: parentheses, and runs of the other characters between them
  and blanks.
Main exports: Token, Token.scan, Keyword, Token.keyword?
-/
import TrafficMeter.Text.Blank

namespace TrafficMeter.Net.Filter

open Text

/-- A word of a filter text. -/
inductive Token where
  | openParen
  | closeParen
  | word (text : List Char)
deriving DecidableEq, Repr, Inhabited

def Token.chars : Token → List Char
  | .openParen => ['(']
  | .closeParen => [')']
  | .word text => text

def Token.text (token : Token) : String :=
  String.ofList token.chars

/-- A character that can stand inside a word. -/
def isWordChar (c : Char) : Bool :=
  !isBlank c && c != '(' && c != ')'

/-- Put a character in front of the tokens that follow it, given whether they begin with a word
that it touches. -/
def Token.scan : List Char → List Token
  | [] => []
  | '(' :: rest => .openParen :: scan rest
  | ')' :: rest => .closeParen :: scan rest
  | c :: rest =>
      if isBlank c then scan rest
      else
        .word (c :: rest.takeWhile isWordChar) :: scan (rest.dropWhile isWordChar)
  termination_by text => text.length
  decreasing_by
    all_goals simp only [List.length_cons]
    all_goals first
      | omega
      | exact Nat.lt_succ_of_le (List.dropWhile_sublist isWordChar).length_le

/-- The words with a meaning of their own. -/
inductive Keyword where
  | tcp
  | udp
  | port
  | host
  | not
  | and
  | or
deriving DecidableEq, Repr

/-- The spelling of a keyword in small letters. -/
def Keyword.spelling : Keyword → String
  | .tcp => "tcp"
  | .udp => "udp"
  | .port => "port"
  | .host => "host"
  | .not => "not"
  | .and => "and"
  | .or => "or"

def Keyword.all : List Keyword := [.tcp, .udp, .port, .host, .not, .and, .or]

/-- The keyword that a token spells, whatever the case of its ASCII letters. -/
def Token.keyword? : Token → Option Keyword
  | .word text => Keyword.all.find? fun keyword => asciiLower text = keyword.spelling.toList
  | _ => none

end TrafficMeter.Net.Filter
