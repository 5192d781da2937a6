/-
Module: TrafficMeter.Data.Value
Purpose: Trees of data, as data formats carry them, and the readers that take typed fields out of
  them.
Main exports: Value, Value.text?, Value.flag?, Value.integer?, Value.natBelow?, Value.each?,
  Value.isDefinite, Value.fields?, Fields, Fields.need, Fields.orElse
-/
import TrafficMeter.Text.Numeral

namespace TrafficMeter.Data

open Text

/-- A tree of data.  A number is kept as it was written.  A number or a text, also one that names a
member, is `none` where the literal was well formed but denotes none. -/
inductive Value where
  | null
  | bool (value : Bool)
  | number (literal : Option (List Char))
  | text (content : Option String)
  | list (items : List Value)
  | record (members : List (Option String × Value))
deriving Repr, Inhabited

namespace Value

def ofText (content : String) : Value := .text (some content)

/-- An integer in decimal. -/
def ofInt (i : Int) : Value := .number (some (signedDecimal i))

/-- A natural number in decimal. -/
def ofNat (n : Nat) : Value := .number (some (decimal n))

/-- A record whose members have proper names. -/
def ofMembers (members : List (String × Value)) : Value :=
  .record (members.map fun (name, value) => (some name, value))

def text? : Value → Option String
  | .text content => content
  | _ => none

def flag? : Value → Option Bool
  | .bool value => some value
  | _ => none

/-- The integer that a literal denotes: decimal digits, a minus sign in front of a number other
than zero.  A literal with a fraction, an exponent or a negative zero denotes none, and one of a
magnitude beyond 64 bits is not asked for. -/
def integerOfLiteral? : List Char → Option Int
  | '-' :: digits => do
      let magnitude ← digitsBelow? 10 18446744073709551616 digits
      if magnitude = 0 then none else some (-(magnitude : Int))
  | digits =>
      if digits.isEmpty then none
      else (digitsBelow? 10 18446744073709551616 digits).map Int.ofNat

/-- The integer that a value is, of a magnitude below 2^64. -/
def integer? : Value → Option Int
  | .number literal => literal.bind integerOfLiteral?
  | _ => none

/-- The natural number below a bound that a value is. -/
def natBelow? (bound : Nat) (value : Value) : Option Nat := do
  let i ← value.integer?
  if 0 ≤ i ∧ i < bound then some i.toNat else none

/-- The 64-bit integer that a value is. -/
def int64? (value : Value) : Option Int64 := do
  let i ← value.integer?
  if -9223372036854775808 ≤ i ∧ i ≤ 9223372036854775807 then some (Int64.ofInt i) else none

/-- The 32-bit integer that a value is. -/
def int32? (value : Value) : Option Int32 := do
  let i ← value.integer?
  if -2147483648 ≤ i ∧ i ≤ 2147483647 then some (Int32.ofInt i) else none

/-- The unsigned 64-bit integer that a value is. -/
def uint64? (value : Value) : Option UInt64 :=
  (value.natBelow? 18446744073709551616).map UInt64.ofNat

/-- The unsigned 32-bit integer that a value is. -/
def uint32? (value : Value) : Option UInt32 :=
  (value.natBelow? 4294967296).map UInt32.ofNat

/-- The unsigned 16-bit integer that a value is. -/
def uint16? (value : Value) : Option UInt16 :=
  (value.natBelow? 65536).map UInt16.ofNat

/-- The items of a list, each taken by the same reader. -/
def each? {α : Type} (item? : Value → Option α) : Value → Option (List α)
  | .list items => items.mapM item?
  | _ => none

mutual

/-- Whether every number in a value denotes one. -/
def isDefinite : Value → Bool
  | .number literal => literal.isSome
  | .list items => areDefinite items
  | .record members => areDefiniteMembers members
  | .null | .bool _ | .text _ => true

/-- Whether every number in any of several values denotes one. -/
def areDefinite : List Value → Bool
  | [] => true
  | item :: others => item.isDefinite && areDefinite others

/-- Whether every number in any of several members denotes one. -/
def areDefiniteMembers : List (Option String × Value) → Bool
  | [] => true
  | (_, value) :: others => value.isDefinite && areDefiniteMembers others

end

end Value

/-- Members of a record by name. -/
abbrev Fields := List (String × Value)

/-- The members of a record that have one of the given names, unless a member's name is no text or
one of those names occurs twice.  Members of other names are passed over, but the numbers in them
must denote some. -/
def Value.namedMembers? (names : List String) (members : List (Option String × Value)) :
    Option Fields := do
  let named ← members.mapM fun (name, value) => name.map (·, value)
  let known := named.filter fun (name, _) => names.contains name
  let others := named.filter fun (name, _) => !names.contains name
  if (known.map Prod.fst).Nodup ∧ others.all fun (_, value) => value.isDefinite then some known
  else none

/-- The fields of a value under the given names.  A list gives its items to the names in order;
with `surplus` it may be longer than they are, and nothing is asked of the items behind. -/
def Value.fields? (names : List String) (surplus : Bool) : Value → Option Fields
  | .record members => namedMembers? names members
  | .list items => if surplus || items.length ≤ names.length then some (names.zip items) else none
  | _ => none

def Fields.need {α : Type} (fields : Fields) (name : String) (read? : Value → Option α) :
    Option α :=
  (fields.lookup name).bind read?

/-- Where no name occurs twice, every entry is found under its own. -/
theorem lookup_of_mem {α β : Type} [BEq α] [LawfulBEq α] {entries : List (α × β)}
    (distinct : (entries.map Prod.fst).Nodup) {entry : α × β} (member : entry ∈ entries) :
    entries.lookup entry.1 = some entry.2 := by
  induction entries with
  | nil => cases member
  | cons first others ih =>
    obtain ⟨name, value⟩ := first
    obtain ⟨fresh, distinct⟩ := List.nodup_cons.mp distinct
    rcases List.mem_cons.mp member with rfl | later
    · simp
    · have other : entry.1 ≠ name := by
        intro same
        exact fresh (List.mem_map.mpr ⟨entry, later, same⟩)
      simpa [List.lookup_cons, beq_false_of_ne other] using ih distinct later

/-- A field that may be left out. -/
def Fields.orElse {α : Type} (fields : Fields) (name : String) (missing : α)
    (read? : Value → Option α) : Option α :=
  match fields.lookup name with
  | none => some missing
  | some value => read? value

end TrafficMeter.Data
