/-
# Severity levels

The six severities of an event, from `verbose` to `fatal`.  A level has a full name, and
abbreviations of one to four letters that keep columns of log lines aligned.  There is a table of
them for each casing.

`Level.moniker` answers to the format of a level directive: a case letter and a width give
an abbreviation or a cut of the full name, and anything else gives the full name, with the
casing that the format asks for.
-/
import Logbook.Role
import Logbook.Template.Format
import Logbook.Text.Blank

namespace Logbook

/-! ## 1. Levels -/

/-- The severity of an event. -/
inductive Level where
  | verbose
  | debug
  | information
  | warning
  | error
  | fatal
  deriving DecidableEq, Repr

namespace Level

/-- The levels, least severe first. -/
def all : List Level := [.verbose, .debug, .information, .warning, .error, .fatal]

/-- The position of a level in the order of severity. -/
def rank : Level → Nat
  | .verbose => 0
  | .debug => 1
  | .information => 2
  | .warning => 3
  | .error => 4
  | .fatal => 5

instance : LE Level := ⟨fun a b => a.rank ≤ b.rank⟩

instance : LT Level := ⟨fun a b => a.rank < b.rank⟩

instance (a b : Level) : Decidable (a ≤ b) := inferInstanceAs (Decidable (a.rank ≤ b.rank))

instance (a b : Level) : Decidable (a < b) := inferInstanceAs (Decidable (a.rank < b.rank))

/-- The full name. -/
def name : Level → String
  | .verbose => "Verbose"
  | .debug => "Debug"
  | .information => "Information"
  | .warning => "Warning"
  | .error => "Error"
  | .fatal => "Fatal"

/-- The role in which the level is written. -/
def role : Level → Role
  | .verbose => .levelVerbose
  | .debug => .levelDebug
  | .information => .levelInformation
  | .warning => .levelWarning
  | .error => .levelError
  | .fatal => .levelFatal

/-! ## 2. Monikers -/

/-- The abbreviations of one to four letters, with a capital in front. -/
def abbreviations : Level → List String
  | .verbose => ["V", "Vb", "Vrb", "Verb"]
  | .debug => ["D", "De", "Dbg", "Dbug"]
  | .information => ["I", "In", "Inf", "Info"]
  | .warning => ["W", "Wn", "Wrn", "Warn"]
  | .error => ["E", "Er", "Err", "Eror"]
  | .fatal => ["F", "Fa", "Ftl", "Fatl"]

/-- The abbreviations in small letters. -/
def smallAbbreviations : Level → List String
  | .verbose => ["v", "vb", "vrb", "verb"]
  | .debug => ["d", "de", "dbg", "dbug"]
  | .information => ["i", "in", "inf", "info"]
  | .warning => ["w", "wn", "wrn", "warn"]
  | .error => ["e", "er", "err", "eror"]
  | .fatal => ["f", "fa", "ftl", "fatl"]

/-- The abbreviations in capitals. -/
def capitalAbbreviations : Level → List String
  | .verbose => ["V", "VB", "VRB", "VERB"]
  | .debug => ["D", "DE", "DBG", "DBUG"]
  | .information => ["I", "IN", "INF", "INFO"]
  | .warning => ["W", "WN", "WRN", "WARN"]
  | .error => ["E", "ER", "ERR", "EROR"]
  | .fatal => ["F", "FA", "FTL", "FATL"]

/-- The table of abbreviations for a casing. -/
def abbreviationsIn : Casing → Level → List String
  | .unchanged => abbreviations
  | .lower => smallAbbreviations
  | .upper => capitalAbbreviations

/-- The abbreviation of `width` letters in a casing, where there is one. -/
def abbreviation? (level : Level) (casing : Casing) (width : Nat) : Option String :=
  if width = 0 then none else (abbreviationsIn casing level)[width - 1]?

/-- The casing that a case letter stands for. -/
def caseLetter? : Char → Option Casing
  | 'u' => some .upper
  | 'w' => some .lower
  | 't' => some .unchanged
  | _ => none

/-- The value of a decimal digit. -/
def digit? (c : Char) : Option Nat :=
  if c.isDigit then some (c.toNat - '0'.toNat) else none

/-- The width after the case letter: one or two characters, digits or a plus sign and a
digit. -/
def monikerWidth? : List Char → Option Nat
  | [d] => digit? d
  | ['+', d] => digit? d
  | [d, e] => (digit? d).bind fun tens => (digit? e).map (10 * tens + ·)
  | _ => none

/-- The level in the form that a format asks for. -/
def moniker (level : Level) : Option String → String
  | none => level.name
  | some format =>
    match format.toList with
    | [] => level.name
    | letter :: rest =>
      match monikerWidth? rest with
      | none => (Casing.ofFormat (some format)).apply level.name
      | some 0 => ""
      | some width =>
        if width > 4 then
          ((caseLetter? letter).getD .unchanged).apply
            (String.ofList (level.name.toList.take width))
        else
          ((caseLetter? letter).bind (level.abbreviation? · width)).getD
            ((Casing.ofFormat (some format)).apply level.name)

/-! ## 3. Names -/

/-- The level with a name, in any letter case.  Common short forms count as names. -/
def ofName? (s : String) : Option Level :=
  match String.ofList (Text.lowerAscii (Text.trim s.toList)) with
  | "verbose" | "trace" | "vrb" => some .verbose
  | "debug" | "dbg" => some .debug
  | "information" | "info" | "inf" => some .information
  | "warning" | "warn" | "wrn" => some .warning
  | "error" | "err" => some .error
  | "fatal" | "critical" | "ftl" => some .fatal
  | _ => none

/-! ## 4. Logging facades -/

/-- The five severities of a general logging facade. -/
inductive Facade where
  | trace
  | debug
  | info
  | warn
  | error
  deriving DecidableEq, Repr

/-- The name of a severity in a facade's filter. -/
def Facade.filterName : Facade → String
  | .trace => "TRACE"
  | .debug => "DEBUG"
  | .info => "INFO"
  | .warn => "WARN"
  | .error => "ERROR"

/-- The facade severity that lets this level and those above through. -/
def facade : Level → Facade
  | .verbose => .trace
  | .debug => .debug
  | .information => .info
  | .warning => .warn
  | .error | .fatal => .error

/-- The level of an event from a facade. -/
def ofFacade : Facade → Level
  | .trace => .verbose
  | .debug => .debug
  | .info => .information
  | .warn => .warning
  | .error => .error

end Level

end Logbook
