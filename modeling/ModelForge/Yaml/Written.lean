import ModelForge.Yaml.Plain
import ModelForge.Yaml.Token

/-! Texts written as scalars of a block mapping. A text that would read as something else is
quoted; the style follows from the characters in it and where they stand. -/
namespace ModelForge.Yaml.Written

/-- The line ends that may stand in a scalar as they are. -/
def isBreak (c : Char) : Bool := c == '\n' || c == '\u2028' || c == '\u2029'

def isPrintable (c : Char) : Bool :=
  let code := c.toNat
  code == 0xa || (0x20 ≤ code && code ≤ 0x7e) || (0xa0 ≤ code && code ≤ 0xd7ff)
    || (0xe000 ≤ code && code ≤ 0xfffd && code != 0xfeff) || 0x10000 ≤ code

/-- Whether a blank, a line end or the end stands at a place. -/
def isGap : Option Char → Bool
  | none => true
  | some c => c == ' ' || c == '\t' || c == '\r' || isBreak c || c == '\u0085' || c == '\x00'

/-- Whether the start of a text would read as something other than a plain scalar. -/
def startsMarked : List Char → Bool
  | [] => false
  | c :: rest =>
    "#,[]\x7b\x7d&*!|>'\"%@\x60".toList.contains c || ("?:-".toList.contains c && isGap rest.head?)

/-- Whether a text goes on, after `before`, with something that ends a plain scalar. -/
def isMarkedBehind (before : Char) : List Char → Bool
  | [] => false
  | c :: rest =>
    (c == ':' && isGap rest.head?) || (c == '#' && isGap (some before))
      || isMarkedBehind c rest

def isMarked (s : List Char) : Bool :=
  startsMarked s || "---".toList.isPrefixOf s || "...".toList.isPrefixOf s
    || match s with
      | [] => false
      | first :: rest => isMarkedBehind first rest

/-- Whether two characters of these kinds stand side by side. -/
def hasPair (first second : Char → Bool) : List Char → Bool
  | a :: b :: rest => (first a && second b) || hasPair first second (b :: rest)
  | _ => false

/-- Whether a text can stand as it is, quotes or not. -/
def isOrdinary (s : List Char) : Bool :=
  s.all isPrintable && !hasPair (· == ' ') isBreak s

def canBePlain (s : List Char) : Bool :=
  let isEdge (c : Char) : Bool := c == ' ' || isBreak c
  isOrdinary s && !isMarked s && !s.any isBreak && !s.head?.any isEdge && !s.getLast?.any isEdge

def canBeSingleQuoted (s : List Char) : Bool := isOrdinary s && !hasPair isBreak (· == ' ') s

def canBeLiteral (s : List Char) : Bool :=
  isOrdinary s && !s.isEmpty && s.getLast? != some ' '

/-- The style in which a text is written. Texts that would read as numbers and the like are
quoted, texts with line feeds are literal, as far as that can be. -/
def style (s : String) : Style :=
  let cs := s.toList
  let quoted := if canBeSingleQuoted cs then Style.singleQuoted else .doubleQuoted
  if cs.contains '\n' then if canBeLiteral cs then .literal else .doubleQuoted
  else
    match Plain.found s with
    | .text _ => if !Plain.isZeroPadded cs ∧ canBePlain cs then .plain else quoted
    | _ => quoted

/-- The blanks in front of every line of a scalar. -/
def indentation : List Char := [' ', ' ']

/-- Lines behind a line end are indented, except when they are empty. -/
def indented (written : Char → List Char) (broken : Bool) : List Char → List Char
  | [] => []
  | c :: rest =>
    if isBreak c then c :: indented written true rest
    else (if broken then indentation else []) ++ written c ++ indented written false rest

/-- A quote is written twice. Before the closing quote a line is indented too. -/
def singleQuoted (s : List Char) : List Char :=
  let double (c : Char) : List Char := if c = '\'' then ['\'', '\''] else [c]
  '\'' :: indented double false s ++ (if s.getLast?.any isBreak then indentation else []) ++ ['\'']

/-- The digits of a character's code, filled up with zeros. -/
def code (width : Nat) (c : Char) : List Char :=
  let digits := (Nat.toDigits 16 c.toNat).map Char.toUpper
  List.replicate (width - digits.length) '0' ++ digits

def escaped (c : Char) : List Char :=
  let isKept := isPrintable c && !isBreak c && c != '"' && c != '\\'
  if isKept then [c]
  else
    '\\' :: match c with
      | '\x00' => ['0']
      | '\x07' => ['a']
      | '\x08' => ['b']
      | '\t' => ['t']
      | '\n' => ['n']
      | '\x0b' => ['v']
      | '\x0c' => ['f']
      | '\r' => ['r']
      | '\x1b' => ['e']
      | '"' => ['"']
      | '\\' => ['\\']
      | '\u0085' => ['N']
      | '\u2028' => ['L']
      | '\u2029' => ['P']
      | other =>
        if other.toNat ≤ 0xff then 'x' :: code 2 other
        else if other.toNat ≤ 0xffff then 'u' :: code 4 other
        else 'U' :: code 8 other

def doubleQuoted (s : List Char) : List Char := '"' :: s.flatMap escaped ++ ['"']

/-- What says which line ends behind a literal belong to it. -/
def chomping (s : List Char) : List Char :=
  match s.reverse with
  | [] => ['-']
  | last :: rest =>
    if !isBreak last then ['-']
    else match rest with
      | [] => ['+']
      | before :: _ => if isBreak before then ['+'] else []

/-- A literal that starts with a blank or a line end tells its indentation. -/
def literal (s : List Char) : List Char :=
  let isEdge (c : Char) : Bool := c == ' ' || isBreak c
  '|' :: (if s.head?.any isEdge then ['2'] else []) ++ chomping s ++ '\n'
    :: indented (fun c => [c]) true s

def scalar (s : String) : List Char :=
  let cs := s.toList
  match style s with
  | .plain => cs
  | .singleQuoted => singleQuoted cs
  | .doubleQuoted => doubleQuoted cs
  | .literal | .folded => literal cs

/-- A line of a mapping. -/
def entry (key value : String) : List Char :=
  let line := key.toList ++ ':' :: ' ' :: scalar value
  if line.getLast?.any isBreak then line else line ++ ['\n']

end ModelForge.Yaml.Written
