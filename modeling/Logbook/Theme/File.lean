/-
# Theme files

A theme file is a YAML mapping from roles to definitions.  Its roles are resolved by
following aliases to attributes; a role that the file leaves undefined is plain.

Following aliases from a role visits each role at most once before it ends or comes round
in a cycle, so a walk with more steps than there are roles has met a cycle.
-/
import Logbook.Files
import Logbook.Theme.Definition

namespace Logbook

namespace Theme

/-! ## 1. Aliases -/

/-- The definitions of a file in order. -/
abbrev Definitions := List (Role × StyleDefinition)

/-- The definition of a role that is in force: the last one. -/
def Definitions.find? (ds : Definitions) (role : Role) : Option StyleDefinition :=
  (ds.reverse.find? fun (r, _) => r = role).map (·.2)

/-- Follows aliases from a role for a number of steps: the style at the end, or nothing if
the end is not reached. -/
def follow (ds : Definitions) : Nat → Role → Option Style
  | steps, role =>
    match ds.find? role with
    | none => some .plain
    | some (.attributes a) => some a.style
    | some (.alias target) =>
      match steps with
      | 0 => none
      | steps + 1 => follow ds steps target

/-- Gives each role of a list the style at the end of its aliases. -/
def assign (ds : Definitions) : List Role → Theme → Except ThemeError Theme
  | [], t => .ok t
  | role :: rest, t =>
    match follow ds Role.all.length role with
    | some style => assign ds rest (t.add role style)
    | none => .error (.aliasCycle role)

/-- The theme that definitions give. -/
def resolve (ds : Definitions) : Except ThemeError Theme :=
  assign ds (ds.map Prod.fst) empty

/-! ## 2. Documents -/

/-- The name of a role as it is written.  A bare null is read as the role of that name. -/
def roleKey? : Yaml.Data → Option String
  | .string s => some s
  | .null => some "null"
  | _ => none

/-- Reads the entries of a document in order. -/
def readDefinitions : List (Yaml.Data × Yaml.Data) → Except ThemeError Definitions
  | [] => .ok []
  | (key, value) :: rest => do
    let name ← match roleKey? key with
      | some name => pure name
      | none => throw (.badRoleKey key.describe)
    let role ← match Role.ofName? name with
      | some role => pure role
      | none => throw (.unknownRole name)
    let definition ← StyleDefinition.ofData name value
    let ds ← readDefinitions rest
    return (role, definition) :: ds

/-- The theme of the data of a document. -/
def ofData : Yaml.Data → Except ThemeError Theme
  | .mapping entries => readDefinitions entries >>= resolve
  | .null => .ok empty
  | d => .error (.badRoot d.describe)

/-- Reads a theme from a YAML text. -/
def ofYaml (text : String) : Except ThemeError Theme :=
  match Yaml.Data.ofText text with
  | .ok d => ofData d
  | .error _ => .error .badDocument

/-- Reads a theme from a file, whose name it takes. -/
def ofFile (files : Files) (path : String) : Except ThemeError Theme :=
  match files path with
  | .error e => .error (.load path e.message)
  | .ok text => (ofYaml text).map fun t => { t with name := Files.stem? path }

end Theme

end Logbook
