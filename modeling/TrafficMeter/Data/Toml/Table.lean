/-
Module: TrafficMeter.Data.Toml.Table
Purpose: Tables as the entries of a TOML text build them up, entry by entry.  A table remembers
  what brought it into being, since that decides what may still be added to it.
Main exports: Toml.Key, Toml.Origin, Toml.Node, Toml.Table, Table.put?, Table.within?,
  Table.declare?, Table.declareNext?, Table.value
-/
import TrafficMeter.Data.Value

namespace TrafficMeter.Data.Toml

/-- A key of one or more parts: the tables that it leads through, and the name in the last one. -/
structure Key where
  path : List String := []
  name : String
deriving DecidableEq, Repr, Inhabited

/-- What brought a table into being. -/
inductive Origin where
  /-- its own header -/
  | header
  /-- the header of a table inside it -/
  | passage
  /-- a key of several parts -/
  | dotted
deriving DecidableEq, Repr, Inhabited

/-- What a name in a table stands for. -/
inductive Node where
  /-- a value, to which nothing can be added -/
  | leaf (value : Value)
  | table (origin : Origin) (members : List (String × Node))
  /-- one table for each header in double brackets, the newest first -/
  | tables (newest : List (String × Node)) (earlier : List (List (String × Node)))
deriving Repr, Inhabited

/-- The members of a table, in the order of their first mention. -/
abbrev Table := List (String × Node)

namespace Table

/-- Put a node under a name that is taken already. -/
def replace (table : Table) (name : String) (node : Node) : Table :=
  table.map fun member => if member.1 = name then (name, node) else member

/-- Put a value under a key of several parts.  The table that receives it is the given one, or one
that such keys brought into being; a table with a header of its own is not entered. -/
def put? (value : Value) (name : String) : List String → Table → Option Table
  | [], table =>
      if (table.lookup name).isSome then none else some (table ++ [(name, .leaf value)])
  | step :: path, table =>
      match table.lookup step with
      | none => do
          let members ← put? value name path []
          return table ++ [(step, .table .dotted members)]
      | some (.table origin members) => do
          guard (origin = .dotted ∨ (origin = .passage ∧ path ≠ []))
          let members ← put? value name path members
          return table.replace step (.table origin members)
      | some (.tables newest earlier) => do
          guard (path ≠ [])
          let newest ← put? value name path newest
          return table.replace step (.tables newest earlier)
      | some (.leaf _) => none

/-- Change the table at the end of a path, which leads through the newest of several tables.  What
is missing on the way is brought into being. -/
def within? (change : Table → Option Table) : List String → Table → Option Table
  | [], table => change table
  | step :: path, table =>
      match table.lookup step with
      | none => do
          let members ← within? change path []
          return table ++ [(step, .table .passage members)]
      | some (.table origin members) => do
          let members ← within? change path members
          return table.replace step (.table origin members)
      | some (.tables newest earlier) => do
          let newest ← within? change path newest
          return table.replace step (.tables newest earlier)
      | some (.leaf _) => none

/-- Give a table its header.  It is new, or headers of tables inside it were met before. -/
def declare? (name : String) (table : Table) : Option Table :=
  match table.lookup name with
  | none => some (table ++ [(name, .table .header [])])
  | some (.table .passage members) => some (table.replace name (.table .header members))
  | some _ => none

/-- Begin the next of several tables of one name. -/
def declareNext? (name : String) (table : Table) : Option Table :=
  match table.lookup name with
  | none => some (table ++ [(name, .tables [] [])])
  | some (.tables newest earlier) => some (table.replace name (.tables [] (newest :: earlier)))
  | some _ => none

end Table

mutual

def Node.value : Node → Value
  | .leaf value => value
  | .table _ members => .record (membersValue members)
  | .tables newest earlier =>
      .list (.record (membersValue newest) :: tableValues earlier).reverse

def membersValue : List (String × Node) → List (Option String × Value)
  | [] => []
  | (name, node) :: others => (some name, node.value) :: membersValue others

def tableValues : List (List (String × Node)) → List Value
  | [] => []
  | members :: others => .record (membersValue members) :: tableValues others

end

def Table.value (table : Table) : Value :=
  .record (membersValue table)

end TrafficMeter.Data.Toml
