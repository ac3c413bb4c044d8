/-
# Definitions of styles

What a theme file says about a role: the attributes of its style, or the name of another
role whose style it shares.  The attributes are written in one string of words, such as
`white on red bold`, or as a mapping, such as `fg: white`, `bg: red`, `bold: true`.

A single word that names a role is an alias, unless it can be read as an attribute.
-/
import Logbook.Color
import Logbook.Theme
import Logbook.Yaml.Data

namespace Logbook

/-! ## 1. Errors -/

/-- Why a theme file defines no theme. -/
inductive ThemeError where
  /-- The file is no YAML document. -/
  | badDocument
  /-- The document is no mapping. -/
  | badRoot (value : String)
  /-- A key of the document is no string. -/
  | badRoleKey (key : String)
  | unknownRole (name : String)
  | invalidColor (role value : String) (reason : ColorError)
  | unknownAttribute (role flag : String)
  | emptyDefinition (role : String)
  | badDefinition (role value : String)
  | badKey (role key : String)
  | badFlag (role flag value : String)
  | lackingBackground (role : String)
  | manyForegrounds (role word : String)
  | emptyShorthand (role text : String)
  | aliasCycle (role : Role)
  /-- The file cannot be read. -/
  | load (path reason : String)
  deriving DecidableEq, Repr

namespace ThemeError

/-- The text about a definition of the wrong shape. -/
def definitionMessage (role message : String) : String :=
  "invalid style definition for role '" ++ role ++ "': " ++ message

/-- The text of an error.  There is none of its own for a broken document. -/
def message : ThemeError → Option String
  | .badDocument => none
  | .badRoot value => some ("failed to parse theme: expected a mapping of roles, got " ++ value)
  | .badRoleKey key => some ("failed to parse theme: role names must be strings, got " ++ key)
  | .unknownRole name => some ("unknown style role '" ++ name ++ "'")
  | .invalidColor role value reason =>
    some ("invalid color '" ++ value ++ "' for role '" ++ role ++ "': " ++ reason.message)
  | .unknownAttribute role flag =>
    some ("unknown attribute '" ++ flag ++ "' in style for role '" ++ role ++ "'")
  | .emptyDefinition role => some (definitionMessage role "empty style definition")
  | .badDefinition role value =>
    some (definitionMessage role ("expected string or mapping, got " ++ value))
  | .badKey role key => some (definitionMessage role ("non-string key " ++ key))
  | .badFlag role flag value =>
    some (definitionMessage role ("'" ++ flag ++ "' must be a boolean, got " ++ value))
  | .lackingBackground role =>
    some (definitionMessage role "'on' must be followed by a color")
  | .manyForegrounds role word =>
    some (definitionMessage role ("multiple foreground colors, got '" ++ word ++ "'"))
  | .emptyShorthand role text =>
    some (definitionMessage role ("empty or invalid shorthand '" ++ text ++ "'"))
  | .aliasCycle role => some (definitionMessage role.key "alias cycle")
  | .load path reason => some ("failed to read theme " ++ path ++ ": " ++ reason)

end ThemeError

/-! ## 2. Attributes -/

/-- The attributes of a style, as a file gives them. -/
structure StyleAttributes where
  foreground : Option Color := none
  background : Option Color := none
  emphasis : Emphasis := {}
  deriving DecidableEq, Repr

namespace StyleAttributes

/-- The style with these attributes. -/
def style (a : StyleAttributes) : Style :=
  ⟨a.foreground.map Color.ink, a.background.map Color.ink, a.emphasis⟩

/-- The attributes with an emphasis switched on or off. -/
def setFlag (a : StyleAttributes) (flag : Attribute) (on : Bool) : StyleAttributes :=
  { a with emphasis := a.emphasis.set flag on }

/-- Reads a colour from a word. -/
def colorOfWord (role : String) (word : List Char) : Except ThemeError Color :=
  (Color.ofText (String.ofList word)).mapError (.invalidColor role (String.ofList word))

/-! ## 3. Words -/

/-- Reads the words of a shorthand.  The word `on` goes with the colour after it. -/
def ofWords (role : String) (a : StyleAttributes) :
    List (List Char) → Except ThemeError StyleAttributes
  | [] => .ok a
  | word :: rest =>
    let lower := Text.lower word
    if lower = ['o', 'n'] then
      match rest with
      | [] => .error (.lackingBackground role)
      | color :: rest =>
        match colorOfWord role color with
        | .ok c => ofWords role { a with background := some c } rest
        | .error e => .error e
    else match Attribute.ofName? (String.ofList lower) with
      | some flag => ofWords role (a.setFlag flag true) rest
      | none =>
        if a.foreground.isSome then .error (.manyForegrounds role (String.ofList word))
        else match colorOfWord role word with
          | .ok c => ofWords role { a with foreground := some c } rest
          | .error e => .error e

/-- Reads a shorthand, which must give some attribute. -/
def ofShorthand (role : String) (s : List Char) : Except ThemeError StyleAttributes :=
  match ofWords role {} (Text.words s) with
  | .ok a => if a = {} then .error (.emptyShorthand role (String.ofList s)) else .ok a
  | .error e => .error e

/-! ## 4. Mappings -/

/-- Reads the channels of a mix. -/
def ofComponents (items : List Yaml.Data) : Except ColorError Color :=
  let component (position : Nat) (d : Yaml.Data) : Except ColorError (Fin 256) :=
    match d with
    | .number n =>
      match n.nat? with
      | some n =>
        match Color.byte? n with
        | some b => .ok b
        | none => .error (.componentRange position n)
      | none => .error (.componentKind position)
    | _ => .error (.componentKind position)
  match items with
  | [r, g, b] => do
    let r ← component 0 r
    let g ← component 1 g
    let b ← component 2 b
    return .rgb r g b
  | items => .error (.tupleLength items.length)

/-- Reads a colour from data: a text, an index or a mix. -/
def colorOfData (d : Yaml.Data) : Except ColorError Color :=
  match d with
  | .string s => Color.ofText s
  | .number n =>
    match n.nat? with
    | some i =>
      match Color.byte? i with
      | some b => .ok (.index b)
      | none => .error (.indexRange i)
    | none => .error (.badIndex n.text)
  | .sequence items => ofComponents items
  | d => .error (.badValue d.describe)

/-- Reads the colour of a mapping. -/
def colorOfEntry (role : String) (d : Yaml.Data) : Except ThemeError Color :=
  let shown := match d with
    | .string s => s
    | d => d.describe
  (colorOfData d).mapError (.invalidColor role shown)

/-- Reads one entry of a mapping. -/
def addEntry (role : String) (a : StyleAttributes) (key value : Yaml.Data) :
    Except ThemeError StyleAttributes :=
  match key with
  | .string "fg" => (colorOfEntry role value).map fun c => { a with foreground := some c }
  | .string "bg" => (colorOfEntry role value).map fun c => { a with background := some c }
  | .string flag =>
    match value with
    | .bool on =>
      match Attribute.ofName? flag with
      | some emphasis => .ok (a.setFlag emphasis on)
      | none => .error (.unknownAttribute role flag)
    | value => .error (.badFlag role flag value.describe)
  | key => .error (.badKey role key.describe)

/-- Reads the entries of a mapping in order. -/
def ofEntries (role : String) (a : StyleAttributes) :
    List (Yaml.Data × Yaml.Data) → Except ThemeError StyleAttributes
  | [] => .ok a
  | (key, value) :: rest =>
    match addEntry role a key value with
    | .ok a => ofEntries role a rest
    | .error e => .error e

end StyleAttributes

/-! ## 5. Definitions -/

/-- What a theme file says about a role. -/
inductive StyleDefinition where
  | alias (target : Role)
  | attributes (a : StyleAttributes)
  deriving DecidableEq, Repr

namespace StyleDefinition

/-- Reads a definition from a text. -/
def ofText (role : String) (s : String) : Except ThemeError StyleDefinition :=
  let text := Text.trim s.toList
  if text = [] then .error (.emptyDefinition role)
  else
    let attributes := StyleAttributes.ofShorthand role text
    match text.any Text.isBlank, Role.ofName? (String.ofList text), attributes with
    | false, some target, .error _ => .ok (.alias target)
    | _, _, .ok a => .ok (.attributes a)
    | _, _, .error e => .error e

/-- Reads the definition of a role, whose name is shown in errors.  Nothing at all stands
for the plain style. -/
def ofData (role : String) : Yaml.Data → Except ThemeError StyleDefinition
  | .string s => ofText role s
  | .mapping entries => (StyleAttributes.ofEntries role {} entries).map .attributes
  | .null => .ok (.attributes {})
  | d => .error (.badDefinition role d.describe)

end StyleDefinition

end Logbook
