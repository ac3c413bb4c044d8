/-
# Roles

What a piece of output is, as far as its style is concerned.  Renderers name a role for
all that they write; a theme turns the role into a style.

A role is written in a theme file in snake case.  Reading is lenient: letter case,
underscores and hyphens do not count.
-/
import Logbook.Text.Case

namespace Logbook

/-- A kind of output. -/
inductive Role where
  /-- Text of templates and messages. -/
  | text
  /-- Timestamps and plain property values. -/
  | secondaryText
  /-- Brackets, braces and separators. -/
  | tertiaryText
  /-- Directives without a property. -/
  | invalid
  /-- The null value. -/
  | null
  /-- Field names and type tags. -/
  | name
  | string
  | number
  | boolean
  /-- Other scalars: characters, points in time, foreign values. -/
  | scalar
  | levelVerbose
  | levelDebug
  | levelInformation
  | levelWarning
  | levelError
  | levelFatal
  deriving DecidableEq, Repr

namespace Role

/-- Every role, in the order of the declaration. -/
def all : List Role :=
  [.text, .secondaryText, .tertiaryText, .invalid, .null, .name, .string, .number, .boolean,
   .scalar, .levelVerbose, .levelDebug, .levelInformation, .levelWarning, .levelError,
   .levelFatal]

theorem mem_all (r : Role) : r ∈ all := by cases r <;> decide

/-- The key of the role in a theme file. -/
def key : Role → String
  | .text => "text"
  | .secondaryText => "secondary_text"
  | .tertiaryText => "tertiary_text"
  | .invalid => "invalid"
  | .null => "null"
  | .name => "name"
  | .string => "string"
  | .number => "number"
  | .boolean => "boolean"
  | .scalar => "scalar"
  | .levelVerbose => "level_verbose"
  | .levelDebug => "level_debug"
  | .levelInformation => "level_information"
  | .levelWarning => "level_warning"
  | .levelError => "level_error"
  | .levelFatal => "level_fatal"

/-- A spelling without underscores, hyphens and capitals. -/
def plainSpelling (s : List Char) : List Char :=
  (s.filter fun c => c != '_' && c != '-').flatMap Text.lowerLetter

/-- The role with a name, in any of its spellings. -/
def ofName? (s : String) : Option Role :=
  all.find? fun r => r.key.toList.filter (· != '_') == plainSpelling s.toList

end Role

end Logbook
