import ModelForge.Decimal.Printer
import ModelForge.Json.Quoted
import ModelForge.Text.Search
import ModelForge.Text.Visible

/-! The values that templates work with, and the texts that stand for them: what is put into the
output, and what is quoted in messages. -/
namespace ModelForge.Template

inductive Number where
  | integer (n : Int)
  | decimal (x : Float)

inductive Value where
  | null
  | truth (b : Bool)
  | number (n : Number)
  | text (s : String)
  | list (items : List Value)
  /-- Fields stand in the order of their names. -/
  | record (fields : List (String × Value))

namespace Number

def toFloat : Number → Float
  | integer n => Float.ofInt n
  | decimal x => x

/-- Decimals are shown with a point. -/
def text : Number → String
  | integer n => toString n
  | decimal x => Decimal.compact x

/-- Decimals are shown without a point when they are whole. -/
def shown : Number → String
  | integer n => toString n
  | decimal x => Decimal.plain x

def same : Number → Number → Bool
  | integer a, integer b => a = b
  | decimal a, decimal b => a == b
  | _, _ => false

end Number

namespace Value

/-- Orders fields by name. -/
def insertField (field : String × Value) : List (String × Value) → List (String × Value)
  | [] => [field]
  | other :: rest =>
    if field.1 < other.1 then field :: other :: rest else other :: insertField field rest

def ofFields (fields : List (String × Value)) : Value := record (fields.foldr insertField [])

/-- An empty text, list or record, zero, and null are not truthy. -/
def isTruthy : Value → Bool
  | null => false
  | truth b => b
  | number (.integer n) => n ≠ 0
  | number (.decimal x) => x != 0 && !x.isNaN
  | text s => !s.toList.isEmpty
  | list items => !items.isEmpty
  | record fields => !fields.isEmpty

mutual

/-- The text that a value leaves in the output. -/
def shown : Value → String
  | null => ""
  | truth b => if b then "true" else "false"
  | number n => n.shown
  | text s => s
  | list items => "[" ++ String.intercalate ", " (shownAll items) ++ "]"
  | record _ => "[object]"

def shownAll : List Value → List String
  | [] => []
  | value :: rest => value.shown :: shownAll rest

end

mutual

/-- The value as a JSON text without spaces. -/
def json : Value → String
  | null => "null"
  | truth b => if b then "true" else "false"
  | number n => n.text
  | text s => Json.quoted s
  | list items => "[" ++ String.intercalate "," (jsonItems items) ++ "]"
  | record fields => "\x7b" ++ String.intercalate "," (jsonFields fields) ++ "\x7d"

def jsonItems : List Value → List String
  | [] => []
  | value :: rest => value.json :: jsonItems rest

def jsonFields : List (String × Value) → List String
  | [] => []
  | (name, value) :: rest => (Json.quoted name ++ ":" ++ value.json) :: jsonFields rest

end

/-- Lines between two brackets, each one step further in than the brackets. -/
def indented (indent opening closing : String) : List String → String
  | [] => opening ++ closing
  | items =>
    opening ++ "\n" ++ String.intercalate ",\n" (items.map fun item => indent ++ "  " ++ item)
      ++ "\n" ++ indent ++ closing

mutual

/-- The value as a JSON text with an item on each line. -/
def pretty (indent : String) : Value → String
  | null => "null"
  | truth b => if b then "true" else "false"
  | number n => n.text
  | text s => Json.quoted s
  | list items => indented indent "[" "]" (prettyItems (indent ++ "  ") items)
  | record fields => indented indent "\x7b" "\x7d" (prettyFields (indent ++ "  ") fields)

def prettyItems (indent : String) : List Value → List String
  | [] => []
  | value :: rest => value.pretty indent :: prettyItems indent rest

def prettyFields (indent : String) : List (String × Value) → List String
  | [] => []
  | (name, value) :: rest =>
    (Json.quoted name ++ ": " ++ value.pretty indent) :: prettyFields indent rest

end

mutual

/-- The value with the name of its kind, for messages about operands. -/
def described : Value → String
  | null => "Null"
  | truth b => if b then "Bool(true)" else "Bool(false)"
  | number n => "Number(" ++ n.text ++ ")"
  | text s => "String(" ++ Text.shown s ++ ")"
  | list items => "Array [" ++ String.intercalate ", " (describedItems items) ++ "]"
  | record fields =>
    "Object \x7b" ++ String.intercalate ", " (describedFields fields) ++ "\x7d"

def describedItems : List Value → List String
  | [] => []
  | value :: rest => value.described :: describedItems rest

def describedFields : List (String × Value) → List String
  | [] => []
  | (name, value) :: rest =>
    (Text.shown name ++ ": " ++ value.described) :: describedFields rest

end

mutual

/-- Whether two values are the same. An integer never equals a decimal. -/
def same : Value → Value → Bool
  | null, null => true
  | truth a, truth b => a = b
  | number a, number b => a.same b
  | text a, text b => a = b
  | list as, list bs => sameItems as bs
  | record as, record bs => sameFields as bs
  | _, _ => false

def sameItems : List Value → List Value → Bool
  | [], [] => true
  | a :: as, b :: bs => a.same b && sameItems as bs
  | _, _ => false

def sameFields : List (String × Value) → List (String × Value) → Bool
  | [], [] => true
  | (name, a) :: as, (name', b) :: bs => name = name' && a.same b && sameFields as bs
  | _, _ => false

end

/-- A number of 64 bits in digits alone. -/
def index? (s : List Char) : Option Nat :=
  let n := s.foldl (fun n c => 10 * n + (c.toNat - '0'.toNat)) 0
  if s.isEmpty || !s.all Char.isDigit || Nat.pow 2 64 ≤ n then none else some n

/-- The part of a value that a step names: a field of a record, or an item of a list by its
place, without superfluous zeros. -/
def part? (step : String) : Value → Option Value
  | record fields => fields.lookup step
  | list items =>
    let digits := step.toList
    if digits.length > 1 ∧ digits.head? = some '0' then none
    else (index? digits).bind (items[·]?)
  | _ => none

end Value

end ModelForge.Template
