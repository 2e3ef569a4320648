/-! The words and signs of a shell script. Quotes keep blanks together, a backslash takes the
meaning from the character after it, and a dollar sign stands before a parameter. -/
namespace ModelForge.Process

/-- A piece of a word. -/
inductive Part where
  | literal (text : String)
  | parameter (name : Char) (quoted : Bool)
deriving DecidableEq, Repr

inductive Token where
  | word (parts : List Part)
  /-- The end of a command; `newline` also ends a line of the script. -/
  | stop
  | newline
  | andThen
  | orElse
  /-- A channel goes to the file that is named by the next word. -/
  | create (channel : Nat)
  | append (channel : Nat)
  /-- A channel goes where the channel with the number in the next word goes. -/
  | duplicate (channel : Nat)
  | read
deriving DecidableEq, Repr

/-- Where the scan of a script is. -/
inductive Scan where
  | between
  | comment
  | plain
  | single
  | double
deriving DecidableEq, Repr

/-- One more character on the parts of a word, the last part first. -/
def Part.push (c : Char) : List Part → List Part
  | .literal text :: parts => .literal (text.push c) :: parts
  | parts => .literal (String.singleton c) :: parts

/-- The word that ends here, if there is one. -/
def Scan.finish : Scan → List Part → List Token
  | .between, _ | .comment, _ => []
  | _, parts => [.word parts.reverse]

/-- Arguments, their number, the last status, the own process and the script. -/
def isParameter (c : Char) : Bool := c.isDigit || c ∈ ['@', '*', '#', '?', '$']

/-- The tokens of a script. `parts` are those of the word that is being read. -/
def tokens : Scan → List Part → List Char → List Token
  | scan, parts, [] => scan.finish parts
  | .single, parts, c :: rest =>
    if c = '\'' then tokens .plain parts rest else tokens .single (Part.push c parts) rest
  | .double, parts, '\\' :: c :: rest =>
    if c = '\n' then tokens .double parts rest
    else if c ∈ ['$', '"', '\\', '`'] then tokens .double (Part.push c parts) rest
    else tokens .double (Part.push c (Part.push '\\' parts)) rest
  | .double, parts, '$' :: c :: rest =>
    if isParameter c then tokens .double (.parameter c true :: parts) rest
    else tokens .double (Part.push '$' parts) (c :: rest)
  | .double, parts, c :: rest =>
    if c = '"' then tokens .plain parts rest else tokens .double (Part.push c parts) rest
  | .comment, parts, c :: rest =>
    if c = '\n' then .newline :: tokens .between [] rest else tokens .comment parts rest
  | .between, _, '1' :: '>' :: '>' :: rest => .append 1 :: tokens .between [] rest
  | .between, _, '2' :: '>' :: '>' :: rest => .append 2 :: tokens .between [] rest
  | .between, _, '1' :: '>' :: '&' :: rest => .duplicate 1 :: tokens .between [] rest
  | .between, _, '2' :: '>' :: '&' :: rest => .duplicate 2 :: tokens .between [] rest
  | .between, _, '1' :: '>' :: rest => .create 1 :: tokens .between [] rest
  | .between, _, '2' :: '>' :: rest => .create 2 :: tokens .between [] rest
  | scan, parts, '>' :: '>' :: rest => scan.finish parts ++ .append 1 :: tokens .between [] rest
  | scan, parts, '>' :: '&' :: rest => scan.finish parts ++ .duplicate 1 :: tokens .between [] rest
  | scan, parts, '&' :: '&' :: rest => scan.finish parts ++ .andThen :: tokens .between [] rest
  | scan, parts, '|' :: '|' :: rest => scan.finish parts ++ .orElse :: tokens .between [] rest
  | scan, parts, '\\' :: c :: rest =>
    if c = '\n' then tokens scan parts rest else tokens .plain (Part.push c parts) rest
  | _, parts, '$' :: c :: rest =>
    if isParameter c then tokens .plain (.parameter c false :: parts) rest
    else tokens .plain (Part.push '$' parts) (c :: rest)
  | scan, parts, c :: rest =>
    if c = ' ' ∨ c = '\t' then scan.finish parts ++ tokens .between [] rest
    else if c = '\n' then scan.finish parts ++ .newline :: tokens .between [] rest
    else if c = ';' then scan.finish parts ++ .stop :: tokens .between [] rest
    else if c = '>' then scan.finish parts ++ .create 1 :: tokens .between [] rest
    else if c = '<' then scan.finish parts ++ .read :: tokens .between [] rest
    else if c = '\'' then tokens .single parts rest
    else if c = '"' then tokens .double parts rest
    else if c = '#' ∧ scan = .between then tokens .comment [] rest
    else tokens .plain (Part.push c parts) rest

/-- Fields in the making: those that are complete, the last first, and the open one. -/
structure Fields where
  complete : List String
  opened : Option String

namespace Fields

def add (fields : Fields) (text : String) : Fields :=
  { fields with opened := some (fields.opened.getD "" ++ text) }

/-- Several texts, each of which but the first starts a field. -/
def splice (fields : Fields) : List String → Fields
  | [] => fields
  | text :: more =>
    more.foldl (fun fields text => ⟨fields.opened.toList ++ fields.complete, some text⟩)
      (fields.add text)

def finished (fields : Fields) : List String := (fields.opened.toList ++ fields.complete).reverse

end Fields

/-- What a shell knows when it expands a word. -/
structure Parameters where
  script : String
  arguments : List String
  status : Nat

namespace Parameters

/-- The texts that a parameter stands for. -/
def values (parameters : Parameters) (name : Char) : List String :=
  match name with
  | '@' | '*' => parameters.arguments
  | '#' => [toString parameters.arguments.length]
  | '?' => [toString parameters.status]
  | '$' => ["$$"]
  | '0' => [parameters.script]
  | digit => [(parameters.arguments[digit.toNat - '1'.toNat]?).getD ""]

/-- The stretches of a text between blanks. -/
def unquoted (text : String) : List String :=
  let step (c : Char) (found : List (List Char)) : List (List Char) :=
    if c = ' ' ∨ c = '\t' ∨ c = '\n' then [] :: found
    else match found with
      | [] => [[c]]
      | first :: rest => (c :: first) :: rest
  ((text.toList.foldr step [[]]).filter (· ≠ [])).map String.ofList

/-- The fields that a word becomes. -/
def expand (parameters : Parameters) (parts : List Part) : List String :=
  if parts = [] then [""]
  else
    let step (fields : Fields) : Part → Fields
      | .literal text => fields.add text
      | .parameter '*' true => fields.add (String.intercalate " " parameters.arguments)
      | .parameter name true => fields.splice (parameters.values name)
      | .parameter name false => fields.splice ((parameters.values name).flatMap unquoted)
    (parts.foldl step ⟨[], none⟩).finished

/-- A word as one text. -/
def expandOne (parameters : Parameters) (parts : List Part) : String :=
  String.intercalate " " (parameters.expand parts)

end Parameters

end ModelForge.Process
