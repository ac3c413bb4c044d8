/-
# Themes

A theme gives styles to roles, and may have a name.  A role without a style is plain.

Themes are built by adding and merging, and from a list of pairs that is collected into a map; the
later assignment wins.  Painting a rendering replaces each role by its style.
-/
import Logbook.Role
import Logbook.Span
import Logbook.Style

namespace Logbook

/-- Styles of roles. -/
structure Theme where
  name : Option String
  assigned : Role → Option Style

namespace Theme

/-- No name and no styles. -/
def empty : Theme := ⟨none, fun _ => none⟩

/-- A name and no styles. -/
def named (name : String) : Theme := ⟨some name, fun _ => none⟩

/-- The theme with a style for a role. -/
def add (t : Theme) (role : Role) (style : Style) : Theme :=
  { t with assigned := fun r => if r = role then some style else t.assigned r }

/-- The theme of a name and the map of some pairs of roles and styles, which has the last pair of
each role. -/
def ofStyles (name : String) (styles : List (Role × Style)) : Theme :=
  ⟨some name, fun role => styles.reverse.lookup role⟩

/-- The theme with another one laid over it. -/
def merge (t top : Theme) : Theme where
  name := top.name.or t.name
  assigned r := (top.assigned r).or (t.assigned r)

/-- The style of a role. -/
def style (t : Theme) (role : Role) : Style := (t.assigned role).getD .plain

/-- Whether a role has a style of its own. -/
def contains (t : Theme) (role : Role) : Bool := (t.assigned role).isSome

/-- The roles with a style of their own. -/
def roles (t : Theme) : List Role := Role.all.filter t.contains

/-- The number of roles with a style of their own. -/
def size (t : Theme) : Nat := t.roles.length

/-- Whether no role has a style of its own. -/
def isEmpty (t : Theme) : Bool := t.roles.isEmpty

/-- The spans in the styles of their roles. -/
def paint (t : Theme) (spans : List (Span Role)) : List (Span Style) := spans.map (Span.map t.style)

theorem texts_paint (t : Theme) (spans : List (Span Role)) :
    Span.texts (t.paint spans) = Span.texts spans := Span.texts_map t.style spans

end Theme

end Logbook
