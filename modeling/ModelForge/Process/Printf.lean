/-! The text that a format makes of arguments: `%s` and `%d` take one argument each, and a
backslash stands before the letter of a control character. -/
namespace ModelForge.Process

/-- The character that a letter after a backslash stands for. -/
def escaped? : Char → Option Char
  | 'n' => some '\n'
  | 't' => some '\t'
  | 'r' => some '\r'
  | '\\' => some '\\'
  | _ => none

/-- A number among the arguments. What is not one counts as zero. -/
def numeral (argument : String) : String :=
  match argument.toInt? with
  | some n => toString n
  | none => "0"

/-- One use of a format: the text, and the arguments that are left. -/
def formatOnce : List Char → List String → String × List String
  | [], arguments => ("", arguments)
  | '%' :: '%' :: rest, arguments =>
    let (text, left) := formatOnce rest arguments
    ("%" ++ text, left)
  | '%' :: 's' :: rest, arguments =>
    let (text, left) := formatOnce rest arguments.tail
    (arguments.headD "" ++ text, left)
  | '%' :: 'd' :: rest, arguments =>
    let (text, left) := formatOnce rest arguments.tail
    (numeral (arguments.headD "0") ++ text, left)
  | '\\' :: c :: rest, arguments =>
    let (text, left) := formatOnce rest arguments
    ((match escaped? c with
      | some meant => String.singleton meant
      | none => String.ofList ['\\', c]) ++ text, left)
  | c :: rest, arguments =>
    let (text, left) := formatOnce rest arguments
    (String.singleton c ++ text, left)

/-- A format is used again while it takes arguments and some are left. -/
def formatAll (format : List Char) : Nat → List String → String
  | 0, _ => ""
  | uses + 1, arguments =>
    let (text, left) := formatOnce format arguments
    if left.isEmpty ∨ left.length = arguments.length then text
    else text ++ formatAll format uses left

/-- The text that a format and its arguments make. -/
def formatted (format : String) (arguments : List String) : String :=
  formatAll format.toList (arguments.length + 1) arguments

/-- A text with its backslashes read. -/
def unescaped (text : String) : String :=
  let rec read : List Char → List Char
    | '\\' :: c :: rest =>
      match escaped? c with
      | some meant => meant :: read rest
      | none => '\\' :: c :: read rest
    | c :: rest => c :: read rest
    | [] => []
  String.ofList (read text.toList)

end ModelForge.Process
