import ModelForge.Template.Problem
import ModelForge.Text.Blank
import ModelForge.Text.Case

/-! What a value becomes when it passes through a named filter. -/
namespace ModelForge.Template.Filter

abbrev Arguments := List (String × Value)

/-- Of several arguments with one name the last counts. -/
def argument? (arguments : Arguments) (name : String) : Option Value :=
  arguments.reverse.lookup name

def textOf (filter : String) : Value → Except Problem String
  | .text s => .ok s
  | other => .error (.wrongValue filter other "String")

def listOf (filter : String) : Value → Except Problem (List Value)
  | .list items => .ok items
  | other => .error (.wrongValue filter other "Vec<Value>")

def textArgument (filter name : String) : Value → Except Problem String
  | .text s => .ok s
  | other => .error (.wrongArgument filter name other "String")

/-- Puts a text between two quotes. Nothing in it is escaped. -/
def quote (s : String) : String := "\"" ++ s ++ "\""

def onText (filter : String) (f : List Char → List Char) (value : Value) :
    Except Problem Value := do
  let s ← textOf filter value
  pure (.text (String.ofList (f s.toList)))

def neededArgument (arguments : Arguments) (name : String) : Except Problem String :=
  match argument? arguments name with
  | some value => textArgument "replace" name value
  | none => .error (.missingArgument "replace" name)

def replace (arguments : Arguments) (value : Value) : Except Problem Value := do
  let s ← textOf "replace" value
  let search ← neededArgument arguments "search"
  let replacement ← neededArgument arguments "with"
  pure (.text (String.ofList (Text.replaceAll search.toList replacement.toList s.toList)))

/-- A written `\n` or `\t` in a separator means the line end or the tab. -/
def separator (s : String) : List Char :=
  Text.replaceAll ['\\', 't'] ['\t'] (Text.replaceAll ['\\', 'n'] ['\n'] s.toList)

def split (arguments : Arguments) (value : Value) : Except Problem Value := do
  let s ← textOf "split" value
  match argument? arguments "pat" with
  | none => .error .missingSeparator
  | some pattern =>
    let pattern ← textArgument "split" "pat" pattern
    pure (.list ((Text.splitOn (separator pattern) s.toList).map fun part =>
      .text (String.ofList part)))

def join (arguments : Arguments) (value : Value) : Except Problem Value := do
  let items ← listOf "join" value
  let between ← match argument? arguments "sep" with
    | none => pure []
    | some value => separator <$> textArgument "truncate" "sep" value
  pure (.text (String.ofList (Text.joinWith between (items.map fun item => item.shown.toList))))

def length : Value → Except Problem Value
  | .text s => .ok (.number (.integer s.toList.length))
  | .list items => .ok (.number (.integer items.length))
  | .record fields => .ok (.number (.integer fields.length))
  | _ => .error .noLength

def first (value : Value) : Except Problem Value := do
  let items ← listOf "first" value
  pure (items.headD (.text ""))

/-- What stands for a character in a web page. -/
def entity (c : Char) : List Char :=
  match c with
  | '&' => "&amp;".toList
  | '<' => "&lt;".toList
  | '>' => "&gt;".toList
  | '"' => "&quot;".toList
  | '\'' => "&#x27;".toList
  | '/' => "&#x2F;".toList
  | other => [other]

/-- The filters by name. -/
def named? (name : String) : Option (Arguments → Value → Except Problem Value) :=
  match name with
  | "quote" => some fun _ value => do pure (.text (quote (← textOf "quote" value)))
  | "replace" => some replace
  | "upper" => some fun _ => onText "upper" Text.upper
  | "lower" => some fun _ => onText "lower" Text.lower
  | "trim" => some fun _ => onText "trim" Text.trim
  | "escape" => some fun _ => onText "escape_html" (·.flatMap entity)
  | "length" => some fun _ => length
  | "first" => some fun _ => first
  | "join" => some join
  | "split" => some split
  | _ => none

/-- These names let a value through unchanged. -/
def isTransparent (name : String) : Bool := name = "safe" || name = "default"

end ModelForge.Template.Filter
