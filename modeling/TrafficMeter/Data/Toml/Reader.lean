/-
Module: TrafficMeter.Data.Toml.Reader
Purpose: Read TOML: the entries of a text one by one, each a header or a key with its value, and
  the table that they build up together.
Main exports: Toml.Entry, Toml.key?, Toml.value?, Toml.entries?, Toml.tableOf?, Toml.read?
-/
import TrafficMeter.Data.Toml.Literal
import TrafficMeter.Data.Toml.Scalar
import TrafficMeter.Data.Toml.Table

namespace TrafficMeter.Data.Toml

/-! ### Between tokens -/

/-- What follows the blanks at the front. -/
def skipBlanks (input : List Char) : List Char :=
  input.dropWhile isBlank

/-- What follows the blanks, ends of lines and comments at the front; `inComment` tells that a
comment has begun. -/
def skipGap? (inComment : Bool) : List Char → Option (List Char)
  | [] => some []
  | '\n' :: rest => skipGap? false rest
  | '\r' :: '\n' :: rest => skipGap? false rest
  | c :: rest =>
      if inComment then if isPlain c then skipGap? true rest else none
      else if isBlank c then skipGap? false rest
      else if c = '#' then skipGap? true rest
      else some (c :: rest)

/-- What follows a given character behind blanks. -/
def expect? (c : Char) (input : List Char) : Option (List Char) :=
  match skipBlanks input with
  | first :: rest => if first = c then some rest else none
  | [] => none

/-- What follows the rest of a line that holds nothing but blanks and a comment. -/
def endOfLine? (input : List Char) : Option (List Char) :=
  let behind :=
    match skipBlanks input with
    | '#' :: rest => rest.dropWhile isPlain
    | rest => rest
  if behind.isEmpty then some [] else newline? behind

/-! ### Keys -/

/-- Whether a character may stand in a name without quotes. -/
def isNamePart (c : Char) : Bool :=
  c.isAlphanum || c == '-' || c == '_'

/-- Read a name, with or without quotes. -/
def name? (input : List Char) : Option (String × List Char) :=
  match quotedLine? input with
  | some (content, rest) => some (String.ofList content, rest)
  | none =>
      let content := input.takeWhile isNamePart
      if content.isEmpty then none
      else some (String.ofList content, input.drop content.length)

/-- Read at most so many names with dots between them, and blanks around these. -/
def names? : Nat → List Char → Option (Key × List Char)
  | 0, _ => none
  | limit + 1, input => do
      let (name, rest) ← name? (skipBlanks input)
      match expect? '.' rest with
      | none => return ({ name }, rest)
      | some more =>
          let (key, rest) ← names? limit more
          return ({ key with path := name :: key.path }, rest)

/-- How deep a key may lead, and how deep lists and tables may lie inside each other. -/
def deepest : Nat := 80

def key? (input : List Char) : Option (Key × List Char) :=
  names? deepest input

/-! ### Values -/

/-- Read items up to a closing mark, at most so many, with commas between them and perhaps behind
the last one. -/
def itemsUpTo? {α : Type} (close : Char) (item? : List Char → Option (α × List Char)) :
    Nat → List Char → Option (List α × List Char)
  | 0, _ => none
  | limit + 1, input => do
      let rest ← skipGap? false input
      if rest.head? = some close then return ([], rest.drop 1)
      let (item, rest) ← item? rest
      match ← skipGap? false rest with
      | ',' :: rest =>
          let (others, rest) ← itemsUpTo? close item? limit rest
          return (item :: others, rest)
      | c :: rest => if c = close then return ([item], rest) else none
      | [] => none

/-- Read items up to a closing mark.  Every item but the last takes a comma. -/
def items? {α : Type} (close : Char) (item? : List Char → Option (α × List Char))
    (input : List Char) : Option (List α × List Char) :=
  itemsUpTo? close item? (input.length + 1) input

/-- Whether a character may stand in a value without quotes: all but blanks, ends of lines, and the
marks that begin something else. -/
def isScalarPart (c : Char) : Bool :=
  !(isBlank c || "\r\n=,[]\x7b\x7d#".toList.contains c)

/-- The text without quotes at the front.  A time of day may follow a day behind one blank. -/
def scalarAt (input : List Char) : List Char :=
  let first := input.takeWhile isScalarPart
  match input.drop first.length with
  | ' ' :: rest =>
      if isDay first && (rest.head?.any Char.isDigit) then
        first ++ ' ' :: rest.takeWhile isScalarPart
      else first
  | _ => first

/-- Read a value without quotes. -/
def readScalar? (input : List Char) : Option (Value × List Char) :=
  (scalar? (scalarAt input)).map (·, input.drop (scalarAt input).length)

def readQuoted? (input : List Char) : Option (Value × List Char) :=
  (quoted? input).map fun (content, rest) => (.ofText (String.ofList content), rest)

/-- A table from keys and values in order. -/
def tableOfPairs? (pairs : List (Key × Value)) : Option Table :=
  pairs.foldlM (fun table (key, value) => table.put? value key.name key.path) []

/-- Read a key and its value as they stand in a table in braces. -/
def pair? (value? : List Char → Option (Value × List Char)) (input : List Char) :
    Option ((Key × Value) × List Char) := do
  let (key, rest) ← key? input
  let rest ← expect? '=' (← skipGap? false rest)
  let (value, rest) ← value? (← skipGap? false rest)
  return ((key, value), rest)

/-- Read a value that lies in fewer than `room` others. -/
def value? (room : Nat) (input : List Char) : Option (Value × List Char) :=
  match room, input with
  | _, '"' :: _ => readQuoted? input
  | _, '\'' :: _ => readQuoted? input
  | room + 1, '[' :: rest =>
      (items? ']' (value? room) rest).map fun (items, rest) => (.list items, rest)
  | room + 1, '{' :: rest => do
      let (pairs, rest) ← items? '}' (pair? (value? room)) rest
      return ((← tableOfPairs? pairs).value, rest)
  | _, input => readScalar? input

/-! ### Entries -/

inductive Entry where
  | header (key : Key)
  | nextHeader (key : Key)
  | pair (key : Key) (value : Value)
deriving Repr, Inhabited

def entry? (input : List Char) : Option (Entry × List Char) :=
  match input with
  | '[' :: '[' :: rest => do
      let (key, rest) ← key? rest
      let rest ← expect? ']' rest
      guard (rest.head? = some ']')
      return (.nextHeader key, rest.drop 1)
  | '[' :: rest => do
      let (key, rest) ← key? rest
      return (.header key, ← expect? ']' rest)
  | input => do
      let (key, rest) ← key? input
      let rest ← expect? '=' rest
      let (value, rest) ← value? deepest (skipBlanks rest)
      return (.pair key value, rest)

/-- Read at most so many entries, each on a line of its own. -/
def entriesUpTo? : Nat → List Char → Option (List Entry)
  | 0, _ => none
  | limit + 1, input => do
      let rest ← skipGap? false input
      if rest.isEmpty then return []
      let (entry, rest) ← entry? rest
      let rest ← endOfLine? rest
      return entry :: (← entriesUpTo? limit rest)

/-- Read the entries of a text.  Every entry takes at least one character. -/
def entries? (input : List Char) : Option (List Entry) :=
  entriesUpTo? (input.length + 1) input

/-- A table under construction, and the path of the header that counts. -/
structure Draft where
  table : Table := []
  header : List String := []
deriving Repr, Inhabited

def Draft.add? (draft : Draft) : Entry → Option Draft
  | .header key => do
      let table ← draft.table.within? (Table.declare? key.name) key.path
      return { table, header := key.path ++ [key.name] }
  | .nextHeader key => do
      let table ← draft.table.within? (Table.declareNext? key.name) key.path
      return { table, header := key.path ++ [key.name] }
  | .pair key value => do
      let table ← draft.table.within? (Table.put? value key.name key.path) draft.header
      return { draft with table }

/-- The table that entries build up. -/
def tableOf? (entries : List Entry) : Option Table :=
  (entries.foldlM Draft.add? {}).map Draft.table

/-- The text behind a mark of the byte order. -/
def skipByteOrderMark : List Char → List Char
  | '\ufeff' :: rest => rest
  | rest => rest

/-- Read a text as a table. -/
def read? (text : String) : Option Value := do
  let entries ← entries? (skipByteOrderMark text.toList)
  return (← tableOf? entries).value

end TrafficMeter.Data.Toml
