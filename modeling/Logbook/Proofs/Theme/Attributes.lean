/-
# Two notations for the attributes of a style

The attributes of a style are a row of items: a foreground, a background and some emphases
(`items`).  A theme file may give them as words, where the background takes two, or as the entries
of a mapping.  Each notation has a reader of its own.

* For both readers an item changes the attributes in the same way, `add` (`ofWords_item`,
  `addEntry_item`).  With words this takes that a colour is no keyword, and that no foreground came
  before: a second one would be refused.
* So either reader adds the items one after the other (`ofWords_items`, `ofEntries_items`).
* The order does not matter, as there is one foreground and one background (`foldl_add_of_perm`).

`ofData_of_items` puts this together: in whatever order, in both notations, the same attributes are
read, and no single word is taken for the name of a role.
-/
import Logbook.Theme.Definition
import Logbook.Proofs.Theme.Colors
import Mathlib.Data.List.Forall2

namespace Logbook

namespace StyleAttributes

/-! ## 1. Items -/

/-- One thing that attributes may say. -/
inductive Item where
  | foreground (color : Color)
  | background (color : Color)
  | flag (emphasis : Attribute)
  deriving DecidableEq

/-- The attributes with an item. -/
def add (a : StyleAttributes) : Item → StyleAttributes
  | .foreground color => { a with foreground := some color }
  | .background color => { a with background := some color }
  | .flag emphasis => a.setFlag emphasis true

/-- What the attributes say. -/
def items (a : StyleAttributes) : List Item :=
  a.foreground.toList.map .foreground ++ a.background.toList.map .background ++
    (Attribute.all.filter a.emphasis.has).map .flag

/-- An item, and the words for it. -/
inductive InWords : Item → List (List Char) → Prop where
  | foreground {color : Color} {w : List Char} (h : color.Spelled w) :
      InWords (.foreground color) [w]
  | background {color : Color} {on w : List Char} (hon : Text.lower on = "on".toList)
      (h : color.Spelled w) : InWords (.background color) [on, w]
  | flag {emphasis : Attribute} {w : List Char}
      (h : String.ofList (Text.lower w) ∈ emphasis.names) : InWords (.flag emphasis) [w]

/-- A colour, and the data for it: a word, or the number of an index. -/
inductive InData : Color → Yaml.Data → Prop where
  | word {color : Color} {w : List Char} (h : color.Spelled w) :
      InData color (.string (String.ofList w))
  | number (n : Fin 256) : InData (.index n) (.number (.integer n))

/-- An item, and the entry for it. -/
inductive InEntry : Item → Yaml.Data × Yaml.Data → Prop where
  | foreground {color : Color} {d : Yaml.Data} (h : InData color d) :
      InEntry (.foreground color) (.string "fg", d)
  | background {color : Color} {d : Yaml.Data} (h : InData color d) :
      InEntry (.background color) (.string "bg", d)
  | flag {emphasis : Attribute} {name : String} (h : name ∈ emphasis.names) :
      InEntry (.flag emphasis) (.string name, .bool true)

variable {a : StyleAttributes} {item : Item} {order : List Item}

/-! ## 2. Words -/

theorem colorOfWord_of_spelled {color : Color} {w : List Char} (h : color.Spelled w)
    (role : String) : colorOfWord role w = .ok color := by
  rw [colorOfWord, Color.ofText_of_spelled h]
  rfl

/-- Whether an item is a foreground. -/
def Item.isForeground : Item → Bool
  | .foreground _ => true
  | _ => false

/-- **The words of an item add it**, unless it is a second foreground. -/
theorem ofWords_item {words : List (List Char)} (h : InWords item words)
    (hfree : item.isForeground = true → a.foreground = none) (role : String)
    (rest : List (List Char)) :
    ofWords role a (words ++ rest) = ofWords role (a.add item) rest := by
  cases h with
  | @foreground color w h =>
    have hon : Text.lower w ≠ ['o', 'n'] := fun hon => h.not_isKeyword (.inl hon)
    have hflag : Attribute.ofName? (String.ofList (Text.lower w)) = none := by
      refine Option.eq_none_iff_forall_ne_some.mpr fun emphasis hflag => ?_
      exact h.not_isKeyword (.inr ⟨emphasis, hflag⟩)
    have hnone : a.foreground.isSome = false := by rw [hfree rfl]; rfl
    rw [List.singleton_append, ofWords.eq_def]
    dsimp only
    rw [if_neg hon, hflag]
    dsimp only
    rw [hnone, if_neg Bool.false_ne_true, colorOfWord_of_spelled h]
    rfl
  | @background color on w hon h =>
    replace hon : Text.lower on = ['o', 'n'] := hon
    rw [List.cons_append, List.singleton_append, ofWords.eq_def]
    dsimp only
    rw [if_pos hon, colorOfWord_of_spelled h]
    rfl
  | @flag emphasis w h =>
    have hflag := Attribute.ofName?_eq_some_iff.mpr h
    have hon : Text.lower w ≠ ['o', 'n'] := by
      intro hon
      rw [hon] at hflag
      exact absurd hflag (by cases emphasis <;> decide)
    rw [List.singleton_append, ofWords.eq_def]
    dsimp only
    rw [if_neg hon, hflag]
    rfl

/-- **Words add their items in order**, if at most one foreground is there or to come. -/
theorem ofWords_items {words : List (List (List Char))} (h : List.Forall₂ InWords order words)
    (hone : order.countP Item.isForeground + a.foreground.toList.length ≤ 1) (role : String) :
    ofWords role a words.flatten = .ok (order.foldl add a) := by
  induction h generalizing a with
  | nil => rw [List.flatten_nil, ofWords]; rfl
  | @cons item ws order words hitem _ ih =>
    rw [List.countP_cons] at hone
    have hfree : item.isForeground = true → a.foreground = none := by
      intro hforeground
      rw [if_pos hforeground] at hone
      cases hcase : a.foreground with
      | none => rfl
      | some color =>
        rw [hcase] at hone
        change _ + 1 + 1 ≤ 1 at hone
        omega
    have hrest : order.countP Item.isForeground + (a.add item).foreground.toList.length ≤ 1 := by
      cases item with
      | foreground color => exact Nat.le_trans (Nat.le_add_right _ _) hone
      | background color => exact hone
      | flag emphasis => exact hone
    rw [List.flatten_cons, ofWords_item hitem hfree, ih hrest]
    rfl

theorem InWords.isWord {words : List (List Char)} (h : InWords item words) :
    ∀ w ∈ words, Text.IsWord w := by
  cases h with
  | foreground h => simpa using h.isWord
  | background hon h =>
    have honWord : Text.IsWord "on".toList := by decide
    simpa using ⟨.of_lower (hon ▸ honWord), h.isWord⟩
  | @flag emphasis w h =>
    have hall : ∀ name ∈ emphasis.names, Text.IsWord name.toList := by
      cases emphasis <;> decide
    have hname := hall _ h
    rw [String.toList_ofList] at hname
    simpa using Text.IsWord.of_lower hname

theorem isWord_of_mem_flatten {words : List (List (List Char))}
    (h : List.Forall₂ InWords order words) : ∀ w ∈ words.flatten, Text.IsWord w := by
  induction h with
  | nil => simp
  | cons hitem _ ih =>
    intro w hw
    rw [List.flatten_cons] at hw
    rcases List.mem_append.mp hw with hw | hw
    · exact hitem.isWord w hw
    · exact ih w hw

/-! ## 3. Entries -/

theorem colorOfData_of_inData {color : Color} {d : Yaml.Data} (h : InData color d) :
    colorOfData d = .ok color := by
  cases h with
  | word h => exact Color.ofText_of_spelled h
  | number n =>
    have hnat : (Yaml.Number.integer n).nat? = some n.val := by
      rw [Yaml.Number.nat?, if_pos (Int.natCast_nonneg _), Int.toNat_natCast]
    unfold colorOfData
    dsimp only
    rw [hnat]
    dsimp only
    rw [Color.byte?_val]

theorem colorOfEntry_of_inData {color : Color} {d : Yaml.Data} (h : InData color d)
    (role : String) : colorOfEntry role d = .ok color := by
  unfold colorOfEntry
  rw [colorOfData_of_inData h]
  rfl

/-- **The entry of an item adds it.** -/
theorem addEntry_item {key value : Yaml.Data} (h : InEntry item (key, value)) (role : String) :
    addEntry role a key value = .ok (a.add item) := by
  cases h with
  | foreground h => rw [addEntry, colorOfEntry_of_inData h]; rfl
  | background h => rw [addEntry, colorOfEntry_of_inData h]; rfl
  | @flag emphasis name h =>
    have hne : name ≠ "fg" ∧ name ≠ "bg" := by
      have hall : ∀ name ∈ emphasis.names, name ≠ "fg" ∧ name ≠ "bg" := by
        cases emphasis <;> decide
      exact hall name h
    unfold addEntry
    split
    case h_1 heq => exact absurd (Yaml.Data.string.inj heq) hne.1
    case h_2 heq => exact absurd (Yaml.Data.string.inj heq) hne.2
    case h_3 heq =>
      obtain rfl := Yaml.Data.string.inj heq
      rw [Attribute.ofName?_eq_some_iff.mpr h]
      rfl
    case h_4 hno => exact absurd rfl (hno name)

/-- **Entries add their items in order.** -/
theorem ofEntries_items {entries : List (Yaml.Data × Yaml.Data)}
    (h : List.Forall₂ InEntry order entries) (role : String) :
    ofEntries role a entries = .ok (order.foldl add a) := by
  induction h generalizing a with
  | nil => rw [ofEntries]; rfl
  | @cons item entry order entries hitem _ ih =>
    rw [ofEntries, addEntry_item hitem]
    exact ih

/-! ## 4. The order does not matter -/

theorem foreground_mem_items {color : Color} :
    .foreground color ∈ a.items ↔ a.foreground = some color := by
  simp [items]

theorem background_mem_items {color : Color} :
    .background color ∈ a.items ↔ a.background = some color := by
  simp [items]

theorem countP_items (a : StyleAttributes) :
    a.items.countP Item.isForeground = a.foreground.toList.length := by
  have hflags :
      ((Attribute.all.filter a.emphasis.has).map Item.flag).countP Item.isForeground = 0 := by
    refine List.countP_eq_zero.mpr fun item hitem => ?_
    obtain ⟨emphasis, -, rfl⟩ := List.mem_map.mp hitem
    exact Bool.false_ne_true
  rw [items, List.countP_append, List.countP_append, hflags]
  cases a.foreground <;> cases a.background <;> rfl

theorem set_comm (e : Emphasis) (f g : Attribute) :
    (e.set f true).set g true = (e.set g true).set f true := by
  refine Emphasis.ext_has fun x => ?_
  rw [Emphasis.has_set, Emphasis.has_set, Emphasis.has_set, Emphasis.has_set]
  split
  · split <;> rfl
  · rfl

/-- Two items of the same attributes are added in either order. -/
theorem add_comm_of_mem {x y : Item} (hx : x ∈ a.items) (hy : y ∈ a.items)
    (b : StyleAttributes) : (b.add x).add y = (b.add y).add x := by
  cases x with
  | foreground c =>
    cases y with
    | foreground d =>
      obtain rfl := Option.some.inj
        ((foreground_mem_items.mp hx).symm.trans (foreground_mem_items.mp hy))
      rfl
    | background _ => rfl
    | flag _ => rfl
  | background c =>
    cases y with
    | foreground _ => rfl
    | background d =>
      obtain rfl := Option.some.inj
        ((background_mem_items.mp hx).symm.trans (background_mem_items.mp hy))
      rfl
    | flag _ => rfl
  | flag f =>
    cases y with
    | foreground _ => rfl
    | background _ => rfl
    | flag g => exact congrArg (StyleAttributes.mk b.foreground b.background) (set_comm _ f g)

theorem foldl_add_flags (flags : List Attribute) (a : StyleAttributes) :
    (flags.map Item.flag).foldl add a =
      { a with emphasis := flags.foldl (·.set · true) a.emphasis } := by
  induction flags generalizing a with
  | nil => rfl
  | cons f flags ih => exact ih (a.setFlag f true)

/-- Attributes are what their items say. -/
theorem foldl_add_items (a : StyleAttributes) : a.items.foldl add {} = a := by
  obtain ⟨foreground, background, emphasis⟩ := a
  rw [items, List.foldl_append, foldl_add_flags]
  cases foreground <;> cases background <;>
    exact congrArg (StyleAttributes.mk _ _) emphasis.foldl_set_filter

/-- **In any order, the items give the attributes.** -/
theorem foldl_add_of_perm (h : order.Perm a.items) : order.foldl add {} = a := by
  rw [h.foldl_eq' (fun x hx y hy b =>
    add_comm_of_mem (h.mem_iff.mp hx) (h.mem_iff.mp hy) b), foldl_add_items]

end StyleAttributes

/-! ## 5. Definitions -/

namespace StyleDefinition

open StyleAttributes

variable {a : StyleAttributes} {order : List Item} {role : String}

/-- A shorthand that gives attributes is no alias. -/
theorem ofText_of_shorthand {text : List Char}
    (h : ofShorthand role (Text.trim text) = .ok a) :
    ofText role (String.ofList text) = .ok (.attributes a) := by
  have hne : Text.trim text ≠ [] := by
    intro hnil
    rw [hnil] at h
    cases h
  unfold ofText
  dsimp only
  rw [String.toList_ofList, if_neg hne, h]
  split
  case h_1 herror => cases herror
  case h_2 hok => rw [Except.ok.inj hok]
  case h_3 herror _ => cases herror

/-- **Words that are spaced in any way** give the attributes of their items. -/
theorem ofText_of_items {words : List (List (List Char))} {text : List Char} (ha : a ≠ {})
    (horder : order.Perm a.items) (hwords : List.Forall₂ InWords order words)
    (htext : Text.Spaced words.flatten text) (role : String) :
    ofText role (String.ofList text) = .ok (.attributes a) := by
  have hone : order.countP Item.isForeground +
      ({} : StyleAttributes).foreground.toList.length ≤ 1 := by
    rw [horder.countP_eq, countP_items]
    cases a.foreground <;> simp
  have hread : ofWords role {} (Text.words (Text.trim text)) = .ok a := by
    rw [Text.words_trim, Text.words_of_spaced htext (isWord_of_mem_flatten hwords),
      ofWords_items hwords hone, foldl_add_of_perm horder]
  refine ofText_of_shorthand ?_
  unfold ofShorthand
  rw [hread]
  exact if_neg ha

/-- **The two notations agree.**  Take any attributes but none at all, and list what they say in
two orders, once in words that are spaced in any way and once in the entries of a mapping.  Both are
read as these attributes, and so have the same style. -/
theorem ofData_of_items {order' : List Item} {words : List (List (List Char))} {text : List Char}
    {entries : List (Yaml.Data × Yaml.Data)} (ha : a ≠ {}) (horder : order.Perm a.items)
    (hwords : List.Forall₂ InWords order words) (htext : Text.Spaced words.flatten text)
    (horder' : order'.Perm a.items) (hentries : List.Forall₂ InEntry order' entries)
    (role : String) :
    ofData role (.string (String.ofList text)) = .ok (.attributes a) ∧
      ofData role (.mapping entries) = .ok (.attributes a) := by
  refine ⟨ofText_of_items ha horder hwords htext role, ?_⟩
  rw [ofData, ofEntries_items hentries, foldl_add_of_perm horder']
  rfl

/-- White, underlined and bold on a colour of the palette. -/
theorem ofData_of_items_mixed :
    let a : StyleAttributes :=
      ⟨some (.rgb 255 255 255), some (.index 208), { bold := true, underlined := true }⟩
    ofData "name" (.string (String.ofList " On 208 UNDERLINE\t #fFf  bold".toList)) =
        .ok (.attributes a) ∧
      ofData "name" (.mapping [(.string "bold", .bool true), (.string "bg", .number (.integer 208)),
        (.string "underlined", .bool true),
        (.string "fg", .string (String.ofList "#FFffFF".toList))]) = .ok (.attributes a) := by
  intro a
  have hindex : Color.Spelled (.index 208) "208".toList := .index (by decide) (by decide)
  have hdigit : ∀ c ∈ ['f', 'F'], Color.HexDigit c 15 := by
    intro c hc
    rcases List.mem_pair.mp hc with rfl | rfl
    · exact ⟨false, by decide⟩
    · exact ⟨true, by decide⟩
  have hshort : ∀ c ∈ ['f', 'F'], Color.ShortChannel c 255 := fun c hc => ⟨15, hdigit c hc, rfl⟩
  have hlong : ∀ c ∈ ['f', 'F'], Color.LongChannel c c 255 := fun c hc =>
    ⟨15, 15, hdigit c hc, hdigit c hc, rfl⟩
  have hwhite : Color.Spelled (.rgb 255 255 255) "#fFf".toList :=
    .short (hshort _ (by decide)) (hshort _ (by decide)) (hshort _ (by decide))
  have hwhite' : Color.Spelled (.rgb 255 255 255) "#FFffFF".toList :=
    .long (hlong _ (by decide)) (hlong _ (by decide)) (hlong _ (by decide))
  have hwords : List.Forall₂ InWords
      [.background (.index 208), .flag .underlined, .foreground (.rgb 255 255 255), .flag .bold]
      [["On".toList, "208".toList], ["UNDERLINE".toList], ["#fFf".toList], ["bold".toList]] :=
    .cons (.background (by decide) hindex) (.cons (.flag (by decide))
      (.cons (.foreground hwhite) (.cons (.flag (by decide)) .nil)))
  have htext := Text.spaced_words " On 208 UNDERLINE\t #fFf  bold".toList
  have hentries : List.Forall₂ InEntry
      [.flag .bold, .background (.index 208), .flag .underlined, .foreground (.rgb 255 255 255)]
      [(.string "bold", .bool true), (.string "bg", .number (.integer 208)),
        (.string "underlined", .bool true),
        (.string "fg", .string (String.ofList "#FFffFF".toList))] :=
    .cons (.flag (by decide)) (.cons (.background (.number 208)) (.cons (.flag (by decide))
      (.cons (.foreground (.word hwhite')) .nil)))
  exact ofData_of_items (by decide) (by decide) hwords htext (by decide) hentries "name"

end StyleDefinition

end Logbook
