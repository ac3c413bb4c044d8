/-
# Settings

What a console sink is made from, as a YAML mapping of six settings.  Those that are left
out have defaults.  A template or a theme that is set to null is kept as missing, and
refused when the sink is built.

Texts may be written as any scalar: `output_template: 5` is the text `5`.
-/
import Logbook.Level
import Logbook.Output
import Logbook.Theme.File
import Logbook.Theme.Preset

namespace Logbook

/-! ## 1. Errors -/

/-- Why a sink cannot be set up. -/
inductive SetupError where
  | missingTemplate
  | missingTheme
  | unknownTheme (name : String)
  | theme (e : ThemeError)
  /-- The document does not give settings. -/
  | badSettings
  | file (e : FileError)
  deriving DecidableEq, Repr

/-- The text of an error.  There is none of its own for a broken document. -/
def SetupError.message : SetupError → Option String
  | .missingTemplate => some "invalid configuration: output template must not be null"
  | .missingTheme => some "invalid configuration: theme must not be null"
  | .unknownTheme name =>
    some ("invalid configuration: unknown theme '" ++ name ++ "', expected one of: " ++
      ", ".intercalate (Preset.all.map Preset.name))
  | .theme e => e.message
  | .badSettings => none
  | .file e => some ("I/O error: " ++ e.message)

/-- The built-in theme with a name. -/
def Theme.preset (name : String) : Except SetupError Theme :=
  match Preset.ofName? name with
  | some p => .ok p.theme
  | none => .error (.unknownTheme (Preset.plainName name))

/-! ## 2. Settings -/

/-- The settings of a console sink. -/
structure Settings where
  outputTemplate : Option String := some Layout.defaultTemplate
  /-- The name of a built-in theme. -/
  theme : Option String := some Preset.literate.name
  /-- The path of a theme file, which is used instead. -/
  themeFile : Option String := none
  minimumLevel : Level := .verbose
  /-- The level from which events go to standard error. -/
  errorLevel : Option Level := none
  /-- Keep the theme also where output does not go to a terminal. -/
  themeRedirected : Bool := false
  deriving DecidableEq, Repr

namespace Settings

/-! ## 3. Reading -/

/-- The text of a scalar. -/
def text? : Yaml.Node → Option String
  | .scalar _ text => some (String.ofList text)
  | _ => none

/-- The text of a scalar, which may be null. -/
def optionalText? : Yaml.Node → Option (Option String)
  | .scalar plain text =>
    some (if plain && Yaml.Data.isNullText text then none else some (String.ofList text))
  | _ => none

/-- A level. -/
def level? (n : Yaml.Node) : Option Level := (text? n).bind Level.ofName?

/-- A level, which may be null. -/
def optionalLevel? (n : Yaml.Node) : Option (Option Level) :=
  (optionalText? n).bind fun
    | none => some none
    | some s => (Level.ofName? s).map some

/-- A truth value, which must be plain. -/
def bool? : Yaml.Node → Option Bool
  | .scalar true text => Yaml.Data.readBool? text
  | _ => none

/-- Changes the setting of a name.  There are no others than these six. -/
def put? (s : Settings) (name : String) (n : Yaml.Node) : Option Settings :=
  match name with
  | "output_template" => (optionalText? n).map fun v => { s with outputTemplate := v }
  | "theme" => (optionalText? n).map fun v => { s with theme := v }
  | "theme_file" => (optionalText? n).map fun v => { s with themeFile := v }
  | "minimum_level" => (level? n).map fun v => { s with minimumLevel := v }
  | "standard_error_from_level" => (optionalLevel? n).map fun v => { s with errorLevel := v }
  | "apply_theme_to_redirected_output" => (bool? n).map fun v => { s with themeRedirected := v }
  | _ => none

/-- Reads the entries of a document; `seen` are the names so far, which may not come
again. -/
def ofEntries (s : Settings) (seen : List String) : List (Yaml.Node × Yaml.Node) → Option Settings
  | [] => some s
  | (key, n) :: rest => do
    let name ← text? key
    if seen.contains name then none
    else ofEntries (← s.put? name n) (name :: seen) rest

/-- The settings of a document. -/
def ofNode? : Yaml.Node → Option Settings
  | .mapping entries => ofEntries {} [] entries
  | .scalar _ [] => some {}
  | _ => none

/-- Reads settings from a YAML text.  A text without a document leaves all defaults. -/
def ofYaml (text : String) : Except SetupError Settings :=
  match Yaml.Node.ofText text with
  | .ok none => .ok {}
  | .ok (some n) =>
    match ofNode? n with
    | some s => .ok s
    | none => .error .badSettings
  | .error _ => .error .badSettings

/-- Reads settings from a file. -/
def ofFile (files : Files) (path : String) : Except SetupError Settings :=
  match files path with
  | .ok text => ofYaml text
  | .error e => .error (.file e)

/-! ## 4. Themes -/

/-- The theme that is set: that of the theme file, else the built-in one.  There is none if
it was set to null. -/
def resolveTheme (s : Settings) (files : Files) : Except SetupError (Option Theme) :=
  match s.themeFile with
  | some path => ((Theme.ofFile files path).mapError SetupError.theme).map some
  | none =>
    match s.theme with
    | some name => (Theme.preset name).map some
    | none => .ok none

end Settings

end Logbook
