/-
Module: TrafficMeter.CommandLine
Purpose: What the program is called with: a settings file, and how much it says about its work.
Main exports: Verbosity, CommandLine, CommandLine.read?
-/

namespace TrafficMeter

/-- How much the program says. -/
inductive Verbosity where
  | off
  | error
  | warn
  | info
  | debug
  | trace
deriving DecidableEq, Repr, Inhabited

/-- The names of the levels, from the quietest. -/
def Verbosity.names : List (String × Verbosity) :=
  [("off", .off), ("error", .error), ("warn", .warn), ("info", .info), ("debug", .debug),
    ("trace", .trace)]

/-- The level of a name, in any case; an unknown name stands for `info`. -/
def Verbosity.ofName (name : String) : Verbosity :=
  (names.lookup name.toLower).getD .info

/-- The position of a level, counted from the quietest. -/
def Verbosity.rank : Verbosity → Nat
  | .off => 0
  | .error => 1
  | .warn => 2
  | .info => 3
  | .debug => 4
  | .trace => 5

/-- Whether a message of one level is said at another. -/
def Verbosity.shows (verbosity level : Verbosity) : Bool :=
  level.rank ≤ verbosity.rank

/-- A call of the program. -/
structure CommandLine where
  settingsFile : String
  verbosity : Verbosity := .info
deriving DecidableEq, Repr, Inhabited

namespace CommandLine

def verbosityOption : String := "--log-level"

/-- Read arguments one by one, given the file and the level met so far. -/
def readFrom? (file : Option String) (level : Option String) :
    List String → Option (String × Option String)
  | [] => file.map (·, level)
  | argument :: rest =>
      if argument = verbosityOption then
        match level, rest with
        | none, name :: rest => readFrom? file (some name) rest
        | _, _ => none
      else if argument.startsWith (verbosityOption ++ "=") then
        match level with
        | none => readFrom? file (some (argument.drop (verbosityOption.length + 1)).toString) rest
        | some _ => none
      else if file.isSome || argument.startsWith "-" then none
      else readFrom? (some argument) level rest

/-- Read the arguments of a call, given the level that the environment names.  There is one
settings file, and the level is set once at most. -/
def read? (fromEnvironment : Option String) (arguments : List String) : Option CommandLine :=
  (readFrom? none none arguments).map fun (settingsFile, level) =>
    { settingsFile, verbosity := Verbosity.ofName ((level.or fromEnvironment).getD "info") }

/-- How to call the program. -/
def usage : String := "usage: traffic-meter [--log-level LEVEL] SETTINGS_FILE"

end CommandLine

end TrafficMeter
