/-
# The data of YAML documents

What the nodes of a document stand for.  A plain scalar may be a null, a truth value or a
number; every other scalar is a string.  The keys of a mapping must differ.

Numbers are integers of 64 bits, in base ten, two, eight or sixteen, or floating point
data.  A row of digits that begins with a superfluous zero is a string.
-/
import Logbook.Number.Integer
import Logbook.Number.Shortest
import Logbook.Text.Escaped
import Logbook.Yaml.Node

namespace Logbook

namespace Yaml

/-! ## 1. Data -/

/-- A number. -/
inductive Number where
  | integer (n : Int)
  | float (x : Binary .double)
  deriving DecidableEq

namespace Number

/-- The text of a number.  A floating point datum shows that it is none of the integers. -/
def text : Number → String
  | .integer n => String.ofList (signedDecimal n)
  | .float x => String.ofList x.pointedText

/-- The value of a natural number. -/
def nat? : Number → Option Nat
  | .integer n => if 0 ≤ n then some n.toNat else none
  | .float _ => none

end Number

/-- What a node stands for. -/
inductive Data where
  | null
  | bool (b : Bool)
  | number (n : Number)
  | string (s : String)
  | sequence (items : List Data)
  | mapping (entries : List (Data × Data))

namespace Data

mutual
/-- Whether two data are equal. -/
def same : Data → Data → Bool
  | .null, .null => true
  | .bool a, .bool b => a == b
  | .number a, .number b => a == b
  | .string a, .string b => a == b
  | .sequence as, .sequence bs => sameItems as bs
  | .mapping as, .mapping bs => sameEntries as bs
  | _, _ => false

/-- Whether two lists of data are equal. -/
def sameItems : List Data → List Data → Bool
  | [], [] => true
  | a :: as, b :: bs => same a b && sameItems as bs
  | _, _ => false

/-- Whether two lists of entries are equal. -/
def sameEntries : List (Data × Data) → List (Data × Data) → Bool
  | [], [] => true
  | (k, v) :: as, (l, w) :: bs => same k l && same v w && sameEntries as bs
  | _, _ => false
end

/-! ## 2. Showing -/

/-- Texts with a comma and a blank between neighbours. -/
def commaText : List String → String
  | [] => ""
  | [s] => s
  | s :: rest => s ++ ", " ++ commaText rest

mutual
/-- The text by which error messages show data. -/
def describe : Data → String
  | .null => "Null"
  | .bool true => "Bool(true)"
  | .bool false => "Bool(false)"
  | .number n => "Number(" ++ n.text ++ ")"
  | .string s => "String(" ++ Text.escaped s ++ ")"
  | .sequence items => "Sequence [" ++ commaText (describeItems items) ++ "]"
  | .mapping entries => "Mapping \x7b" ++ commaText (describeEntries entries) ++ "\x7d"

/-- The texts of the items of a sequence. -/
def describeItems : List Data → List String
  | [] => []
  | d :: rest => describe d :: describeItems rest

/-- The texts of the entries of a mapping, with the keys without their kind. -/
def describeEntries : List (Data × Data) → List String
  | [] => []
  | (key, d) :: rest =>
    let keyText := match key with
      | .bool b => if b then "true" else "false"
      | .number n => n.text
      | .string s => Text.escaped s
      | key => describe key
    (keyText ++ ": " ++ describe d) :: describeEntries rest
end

/-! ## 3. Plain scalars -/

/-- Digits after a superfluous zero, with an optional sign: no number. -/
def isZeroLed (s : List Char) : Bool :=
  let digits := match s with
    | '-' :: rest => rest
    | '+' :: rest => rest
    | s => s
  match digits with
  | '0' :: d :: rest => (d :: rest).all Char.isDigit
  | _ => false

/-- The value of digits in a base; one must be there. -/
def readBase? (base : Nat) (s : List Char) : Option Nat :=
  if s = [] then none
  else s.foldlM (fun n x =>
    (hexDigit? x).bind fun d => if d < base then some (base * n + d) else none) 0

/-- The value of an unsigned integer, with the mark of its base. -/
def readMagnitude? (s : List Char) : Option Nat :=
  match s with
  | '0' :: 'x' :: digits => readBase? 16 digits
  | '0' :: 'o' :: digits => readBase? 8 digits
  | '0' :: 'b' :: digits => readBase? 2 digits
  | digits => readBase? 10 digits

/-- The value of an integer. -/
def readInteger? (s : List Char) : Option Int :=
  if isZeroLed s then none
  else match s with
    | '+' :: rest => (readMagnitude? rest).map (↑·)
    | '-' :: rest => (readMagnitude? rest).map fun n => -(n : Int)
    | s => (readMagnitude? s).map (↑·)

/-- The value of a floating point datum. -/
def readFloat? (s : List Char) : Option (Binary .double) :=
  let unsigned := match s with
    | '+' :: rest => rest
    | s => s
  let signs := s.take 2
  if signs = ['+', '+'] ∨ signs = ['+', '-'] then none
  else if [".inf", ".Inf", ".INF"].any (·.toList == unsigned) then some (.infinite false)
  else if ["-.inf", "-.Inf", "-.INF"].any (·.toList == s) then some (.infinite true)
  else if [".nan", ".NaN", ".NAN"].any (·.toList == s) then some .nan
  else if isZeroLed s then none
  else (Binary.read? .double unsigned).filter (·.isFinite)

/-- A null. -/
def isNullText (s : List Char) : Bool :=
  s.isEmpty || ["null", "Null", "NULL", "~"].any (·.toList == s)

/-- A truth value. -/
def readBool? (s : List Char) : Option Bool :=
  if ["true", "True", "TRUE"].any (·.toList == s) then some true
  else if ["false", "False", "FALSE"].any (·.toList == s) then some false
  else none

/-- What a plain scalar stands for.  An integer of more than 64 bits is an error, unless
it has more than 128 and so counts as a floating point datum. -/
def ofPlain (s : List Char) : Except Error Data :=
  if isNullText s then .ok .null
  else match readBool? s with
    | some b => .ok (.bool b)
    | none =>
      match readInteger? s with
      | some n =>
        if IntegerKind.signed64.least ≤ n ∧ n ≤ IntegerKind.unsigned64.greatest then
          .ok (.number (.integer n))
        else if IntegerKind.signed128.least ≤ n ∧ n ≤ IntegerKind.unsigned128.greatest then
          .error .numberRange
        else match readFloat? s with
          | some x => .ok (.number (.float x))
          | none => .ok (.string (String.ofList s))
      | none =>
        match readFloat? s with
        | some x => .ok (.number (.float x))
        | none => .ok (.string (String.ofList s))

/-! ## 4. Documents -/

mutual
/-- What a node stands for. -/
def ofNode : Node → Except Error Data
  | .scalar true text => ofPlain text
  | .scalar false text => .ok (.string (String.ofList text))
  | .sequence items => (ofItems items).map .sequence
  | .mapping entries => (ofEntries entries).map .mapping

/-- What the items of a sequence stand for. -/
def ofItems : List Node → Except Error (List Data)
  | [] => .ok []
  | n :: rest => do
    let d ← ofNode n
    let ds ← ofItems rest
    return d :: ds

/-- What the entries of a mapping stand for. -/
def ofEntries : List (Node × Node) → Except Error (List (Data × Data))
  | [] => .ok []
  | (key, n) :: rest => do
    let k ← ofNode key
    let d ← ofNode n
    let ds ← ofEntries rest
    if ds.any fun (l, _) => same k l then throw .duplicateKey
    return (k, d) :: ds
end

/-- Reads the data of a text.  A text without a document stands for null. -/
def ofText (text : String) : Except Error Data := do
  match ← Node.ofText text with
  | none => return .null
  | some n => ofNode n

end Data

end Yaml

end Logbook
