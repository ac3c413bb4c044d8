/-
# JSON documents

The documents of RFC 8259 as trees: an object keeps its members in the order in which
they are written, and a number keeps its spelling, since the value it stands for depends
on who reads it.

Reading has two stages.  `Json.lex` cuts the text into lexemes, and `Json.step` pushes one
lexeme onto the stack of the containers that are still open.  `Json.read?` runs both and
accepts a text when exactly one document is left.  `Json.write` is the compact printer.
-/
import Logbook.Text.Quoted

namespace Logbook

/-! ## 1. Documents -/

/-- A JSON document. -/
inductive Json where
  | null
  | bool (b : Bool)
  | number (spelling : String)
  | string (text : String)
  | array (items : List Json)
  | object (members : List (String × Json))

namespace Json

/-- The member of an object with a name, the last one if it is repeated.  A document that
is no object has no members. -/
def member? (doc : Json) (name : String) : Option Json :=
  match doc with
  | .object members => (members.reverse.find? fun (n, _) => n == name).map (·.2)
  | _ => none

/-! ## 2. Numerals -/

/-- Drops the digits at the front; at least one must be there. -/
def afterDigits? (s : List Char) : Option (List Char) :=
  match s with
  | c :: rest => if c.isDigit then some (rest.dropWhile Char.isDigit) else none
  | [] => none

/-- Drops the integer part, which has no leading zero. -/
def afterWhole? : List Char → Option (List Char)
  | '0' :: rest => some rest
  | s => afterDigits? s

/-- Drops an optional fraction. -/
def afterFraction? : List Char → Option (List Char)
  | '.' :: rest => afterDigits? rest
  | s => some s

/-- Drops an optional exponent. -/
def afterExponent? : List Char → Option (List Char)
  | c :: rest =>
    if c = 'e' ∨ c = 'E' then
      match rest with
      | '+' :: rest => afterDigits? rest
      | '-' :: rest => afterDigits? rest
      | rest => afterDigits? rest
    else some (c :: rest)
  | [] => some []

/-- Whether a text is a number by the grammar of JSON. -/
def isNumeral (s : List Char) : Bool :=
  let unsigned := match s with
    | '-' :: rest => rest
    | s => s
  (afterWhole? unsigned >>= afterFraction? >>= afterExponent?) == some []

/-! ## 3. Lexemes -/

/-- What a document is written with. -/
inductive Lexeme where
  | openBrace
  | closeBrace
  | openBracket
  | closeBracket
  | colon
  | comma
  | text (s : List Char)
  | word (s : List Char)
  deriving DecidableEq, Repr

/-- The blanks that may stand between lexemes. -/
def isSpace (c : Char) : Bool := c == ' ' || c == '\n' || c == '\r' || c == '\t'

/-- The characters of numbers and of the three literal words. -/
def isWordChar (c : Char) : Bool := c.isAlphanum || c == '-' || c == '+' || c == '.'

/-- The lexeme that is a single mark. -/
def mark? (c : Char) : Option Lexeme :=
  if c = '{' then some .openBrace
  else if c = '}' then some .closeBrace
  else if c = '[' then some .openBracket
  else if c = ']' then some .closeBracket
  else if c = ':' then some .colon
  else if c = ',' then some .comma
  else none

theorem length_dropWhile_le {p : Char → Bool} (s : List Char) :
    (s.dropWhile p).length ≤ s.length :=
  (List.dropWhile_suffix p).length_le

/-- The lexemes of a text, or nothing when a character starts none. -/
def lex : List Char → Option (List Lexeme)
  | [] => some []
  | c :: rest =>
    if isSpace c then lex rest
    else match mark? c with
      | some m => (lex rest).map (m :: ·)
      | none =>
        if c = '"' then
          match _h : Text.readQuoted rest with
          | some (s, after) => (lex after).map (.text s :: ·)
          | none => none
        else if isWordChar c then
          (lex (rest.dropWhile isWordChar)).map (.word (c :: rest.takeWhile isWordChar) :: ·)
        else none
  termination_by s => s.length
  decreasing_by
    · simp
    · simp
    · have := Text.readQuoted_length _h
      simp only [List.length_cons]
      omega
    · have := length_dropWhile_le (p := isWordChar) rest
      simp only [List.length_cons]
      omega

/-! ## 4. Building the tree -/

/-- A container that is still open, with what it holds so far, last first. -/
inductive Frame where
  | array (items : List Json)
  | object (members : List (String × Json)) (key : String)

/-- What may come next. -/
inductive Reading where
  /-- A value must come. -/
  | value (stack : List Frame)
  /-- The first item of an array, or its end. -/
  | item (stack : List Frame)
  /-- The first name of an object, or its end. -/
  | name (stack : List Frame)
  /-- A further name of an object. -/
  | nextName (members : List (String × Json)) (stack : List Frame)
  /-- The colon after a name. -/
  | colon (members : List (String × Json)) (key : String) (stack : List Frame)
  /-- A comma, or the end of the innermost container. -/
  | after (top : Frame) (doc : Json) (stack : List Frame)
  /-- Nothing: the document is complete. -/
  | done (doc : Json)

/-- A value has been read in the innermost container. -/
def close (doc : Json) : List Frame → Reading
  | [] => .done doc
  | top :: stack => .after top doc stack

/-- The document of a bare word. -/
def ofWord? (s : List Char) : Option Json :=
  if s = "null".toList then some .null
  else if s = "true".toList then some (.bool true)
  else if s = "false".toList then some (.bool false)
  else if isNumeral s then some (.number (String.ofList s))
  else none

/-- The start of a value. -/
def begin? (stack : List Frame) : Lexeme → Option Reading
  | .openBrace => some (.name stack)
  | .openBracket => some (.item stack)
  | .text s => some (close (.string (String.ofList s)) stack)
  | .word s => (ofWord? s).map (close · stack)
  | _ => none

/-- One more lexeme. -/
def step : Reading → Lexeme → Option Reading
  | .value stack, x => begin? stack x
  | .item stack, .closeBracket => some (close (.array []) stack)
  | .item stack, x => begin? (.array [] :: stack) x
  | .name stack, .closeBrace => some (close (.object []) stack)
  | .name stack, .text s => some (.colon [] (String.ofList s) stack)
  | .nextName members stack, .text s => some (.colon members (String.ofList s) stack)
  | .colon members key stack, .colon => some (.value (.object members key :: stack))
  | .after (.array items) doc stack, .comma => some (.value (.array (doc :: items) :: stack))
  | .after (.array items) doc stack, .closeBracket =>
    some (close (.array (doc :: items).reverse) stack)
  | .after (.object members key) doc stack, .comma =>
    some (.nextName ((key, doc) :: members) stack)
  | .after (.object members key) doc stack, .closeBrace =>
    some (close (.object ((key, doc) :: members).reverse) stack)
  | _, _ => none

/-- All the lexemes of a text, in order. -/
def run (r : Reading) (xs : List Lexeme) : Option Reading := xs.foldlM step r

theorem run_append (r : Reading) (xs ys : List Lexeme) :
    run r (xs ++ ys) = (run r xs).bind (run · ys) := by
  simp [run, List.foldlM_append]

/-- Reads one document from the whole text. -/
def read? (text : String) : Option Json :=
  match (lex text.toList).bind (run (.value [])) with
  | some (.done doc) => some doc
  | _ => none

/-! ## 5. Writing -/

mutual
/-- The compact text of a document. -/
def write : Json → List Char
  | .null => "null".toList
  | .bool true => "true".toList
  | .bool false => "false".toList
  | .number spelling => spelling.toList
  | .string s => Text.quoteChars s.toList
  | .array items => '[' :: (writeItems items ++ [']'])
  | .object members => '{' :: (writeMembers members ++ ['}'])

/-- The items of an array, with commas between them. -/
def writeItems : List Json → List Char
  | [] => []
  | [doc] => write doc
  | doc :: docs => write doc ++ ',' :: writeItems docs

/-- The members of an object, with commas between them. -/
def writeMembers : List (String × Json) → List Char
  | [] => []
  | [(name, doc)] => Text.quoteChars name.toList ++ ':' :: write doc
  | (name, doc) :: docs =>
    Text.quoteChars name.toList ++ ':' :: write doc ++ ',' :: writeMembers docs
end

end Json

end Logbook
