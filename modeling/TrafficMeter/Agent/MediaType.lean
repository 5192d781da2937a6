/-
Module: TrafficMeter.Agent.MediaType
Purpose: Read the media type of a request body.
Main exports: MediaType, MediaType.read?, MediaType.isJson
-/
import TrafficMeter.Text.Blank

namespace TrafficMeter

open Text

/-- The kind of a body: a type and a subtype, without what follows a plus sign in the latter. -/
structure MediaType where
  type : List Char
  subtype : List Char
deriving DecidableEq, Repr

namespace MediaType

/-- The characters of which names and unquoted values are made. -/
def isTokenChar (c : Char) : Bool :=
  c.isAlphanum || "!#$%&'*+-.^_|~".toList.contains c || c.toNat == 96

/-- The characters that may stand between quotes: those of ASCII that can be seen, and blanks. -/
def isQuotedChar (c : Char) : Bool :=
  31 < c.toNat && c.toNat < 127

/-- Read the end of a parameter behind its closing quote: the next semicolon, or the end. -/
def readBehindQuote? (input : List Char) : Option (List Char) :=
  match input.dropWhile (· == ' ') with
  | ';' :: next => some next
  | [] => some []
  | _ => none

/-- Read the value of a parameter and the semicolon behind it.  Between quotes stands at least one
character, and the first of them may be a quote itself. -/
def readValue? : List Char → Option (List Char)
  | '"' :: first :: rest =>
      if isQuotedChar first then
        match rest.dropWhile fun c => isQuotedChar c && c != '"' with
        | '"' :: behind => readBehindQuote? behind
        | _ => none
      else none
  | rest =>
      match rest.dropWhile isTokenChar with
      | ';' :: next => if next.length + 1 = rest.length then none else some next
      | [] => some []
      | _ => none

/-- Whether the rest of a media type is a list of parameters, at most `limit` of them. -/
def areParameters : Nat → List Char → Bool
  | _, [] => true
  | 0, _ => false
  | limit + 1, input =>
      match input.dropWhile (· == ' ') with
      | [] => true
      | parameter =>
          match parameter.dropWhile isTokenChar with
          | '=' :: value =>
              value.length + 1 != parameter.length &&
                (readValue? value).any (areParameters limit)
          | _ => false

/-- A subtype up to its last plus sign behind the first character. -/
def withoutSuffix (subtype : List Char) : List Char :=
  match subtype with
  | [] => []
  | first :: rest =>
      if rest.contains '+' then
        first :: ((rest.reverse.dropWhile (· != '+')).drop 1).reverse
      else subtype

/-- Read a media type: a type and a subtype with a slash between them, then parameters. -/
def read? (text : String) : Option MediaType :=
  let chars := text.toList
  let type := chars.takeWhile isTokenChar
  match chars.drop type.length with
  | '/' :: rest =>
      let subtype := rest.takeWhile isTokenChar
      if type.isEmpty || subtype.isEmpty then none
      else
        let found : MediaType := ⟨asciiLower type, withoutSuffix (asciiLower subtype)⟩
        match rest.drop subtype.length with
        | [] => some found
        | ';' :: parameters =>
            if areParameters parameters.length parameters then some found else none
        | _ => none
  | _ => none

def isJson (found : MediaType) : Bool :=
  found == ⟨"application".toList, "json".toList⟩

end MediaType

end TrafficMeter
