import ModelForge.Template.Tree
import ModelForge.Text.Reader

/-! Reading expressions. The rules nest only through brackets, so each is written once over a
reader `inner` for what stands between brackets, and `phrase` ties the knot as deep as needed.

* A *sum* is made of values with `+ - * / %`; the filters behind it apply to all of it.
* A *comparison* holds at most one of `< <= > >= == !=`.
* A *condition* joins comparisons and membership tests with `and` and `or`, `and` first. `not`
  needs a blank behind it and governs one comparison; a bracketed condition takes the negation
  that stands before its bracket, and no other. -/
namespace ModelForge.Template.Phrase

open ModelForge.Text (Reader)
open ModelForge.Text.Reader

def isSpace (c : Char) : Bool := c == ' ' || c == '\t' || c == '\r' || c == '\n'

def spaces : Reader Unit := do let _ ← spanned isSpace

def isWordStart (c : Char) : Bool := c.isAlpha || c == '_'

def isWordPart (c : Char) : Bool := c.isAlphanum || c == '_'

/-- A text after optional blanks. -/
def token (expected : String) : Reader Unit := do
  spaces
  exactly expected

def word : Reader String := do
  let first ← one isWordStart
  let rest ← spanned isWordPart
  pure (String.ofList (first :: rest))

/-- A text between two equal quotes, of any of three kinds. Nothing can be escaped in it. -/
def quotation : Reader String := do
  let quote ← one fun c => c == '"' || c == '\'' || c == '\x60'
  let inside ← spanned (· != quote)
  let _ ← one (· == quote)
  pure (String.ofList inside)

/-- Digits without superfluous zeros in front. -/
def wholePart : Reader (List Char) := do
  let first ← one Char.isDigit
  if first = '0' then pure ['0']
  else
    let rest ← spanned Char.isDigit
    pure (first :: rest)

def digitsValue (digits : List Char) : Nat :=
  digits.foldl (fun n c => 10 * n + (c.toNat - '0'.toNat)) 0

def signed (negative : Bool) (n : Nat) : Int := if negative then -n else n

def integerText : Reader Int := do
  let sign ← optional (one (· == '-'))
  let digits ← wholePart
  pure (signed sign.isSome (digitsValue digits))

/-- Integers have 64 bits. -/
def integer : Reader Term := do
  let n ← integerText
  if -Int.pow 2 63 ≤ n ∧ n < Int.pow 2 63 then pure (.integer n) else failure

def decimal : Reader Term := do
  let sign ← optional (one (· == '-'))
  let whole ← wholePart
  let _ ← one (· == '.')
  let fraction ← some' Char.isDigit
  pure (.decimal sign.isSome (digitsValue (whole ++ fraction)) fraction.length)

def truth : Reader Bool :=
  (do exactly "true"; pure true) <|> (do exactly "false"; pure false)
    <|> (do exactly "True"; pure true) <|> (do exactly "False"; pure false)

def dotStep : Reader Unit := do
  let _ ← one (· == '.')
  let _ ← some' isWordPart

/-- The kinds of phrase that can stand between brackets. -/
inductive Kind where
  | sum
  | condition
  | list
  | path
deriving DecidableEq

section Rules

variable (inner : Kind → Reader Expr)

def bracketStep : Reader Unit := do
  let _ ← one (· == '[')
  (do let _ ← integerText) <|> (do let _ ← quotation) <|> (do let _ ← inner .path)
  let _ ← one (· == ']')

/-- A variable with its steps, kept as it is written. -/
def path : Reader String := do
  let path ← raw (do let _ ← word; many (dotStep <|> bracketStep inner))
  pure (String.ofList path)

def argument : Reader Argument := do
  spaces
  let name ← word
  token "="
  spaces
  let value ← inner .condition <|> inner .list
  pure (.of name value)

/-- Items with commas between them, and one behind the last if `trailing` says so. -/
def separated (trailing : Bool) (item : Reader α) : Reader (List α) := do
  let first ← optional item
  match first with
  | none => pure []
  | some first =>
    let rest ← many (do token ","; item)
    if trailing then
      let _ ← optional (token ",")
    pure (first :: rest)

/-- Of several arguments with one name the last counts. -/
def lastOfEach : List Argument → List Argument
  | [] => []
  | first :: rest =>
    if rest.any (·.name = first.name) then lastOfEach rest else first :: lastOfEach rest

def arguments : Reader (List Argument) := do
  token "("
  let items ← separated true (argument inner)
  token ")"
  pure (lastOfEach items)

def call : Reader Call := do
  let name ← word
  let items ← arguments inner
  pure (.of name items)

def macroCall : Reader Term := do
  let space ← word
  token "::"
  spaces
  let call ← call inner
  pure (.macroCall space call)

def testArguments : Reader (List Expr) := do
  token "("
  let items ← separated false (do spaces; inner .condition <|> inner .list)
  token ")"
  if items.isEmpty then failure else pure items

def tested (negated : Bool) : Reader Term := do
  let path ← path inner
  token "is"
  if negated then token "not"
  spaces
  let name ← word
  let items ← optional (testArguments inner)
  pure (.test path name negated (items.getD []))

/-- The values that arithmetic starts from. Words that begin like a truth value are one. -/
def operand : Reader Term :=
  (Term.truth <$> truth) <|> tested inner true <|> tested inner false <|> macroCall inner
    <|> (Term.call <$> call inner) <|> (Term.lookup <$> path inner) <|> decimal <|> integer

def bracketedSum : Reader Term := do
  exactly "("
  spaces
  let sum ← inner .sum
  token ")"
  pure sum.term

def arithmeticSign : Reader Arithmetic :=
  (do token "+"; pure .add) <|> (do token "-"; pure .subtract) <|> (do token "*"; pure .multiply)
    <|> (do token "/"; pure .divide) <|> (do token "%"; pure .modulo)

def bindsTighter : Arithmetic → Bool
  | .add | .subtract => false
  | .multiply | .divide | .modulo => true

/-- Groups operands from the left, products before sums. `pending` is a sum that waits for the
product being built. -/
def group (pending : Option (Expr × Arithmetic)) (product : Expr) :
    List (Arithmetic × Expr) → Expr
  | [] => close product
  | (sign, operand) :: rest =>
    if bindsTighter sign then group pending (.plain (.arithmetic sign product operand)) rest
    else group (some (close product, sign)) operand rest
where
  close (product : Expr) : Expr :=
    match pending with
    | none => product
    | some (sum, sign) => .plain (.arithmetic sign sum product)

def sumOf (operand : Reader Expr) : Reader Expr := do
  let first ← operand
  let rest ← many do
    let sign ← arithmeticSign
    spaces
    let next ← operand
    pure (sign, next)
  pure (group none first rest)

def sum : Reader Expr := sumOf (Expr.plain <$> (bracketedSum inner <|> operand inner))

def filter : Reader Call := do
  token "|"
  spaces
  call inner <|> (do let name ← word; pure (.of name []))

def withFilters (term : Reader Term) : Reader Expr := do
  let term ← term
  let filters ← many (filter inner)
  pure (.of term false filters)

def filteredSum : Reader Expr := withFilters inner (Expr.term <$> sum inner)

def concatPart : Reader Term :=
  (Term.call <$> call inner) <|> decimal <|> integer <|> (Term.text <$> quotation)
    <|> (Term.lookup <$> path inner)

/-- Joins texts that follow each other into one and drops those that are empty. -/
def joinTexts (pending : String) : List Term → List Term
  | [] => close pending
  | .text s :: rest => joinTexts (pending ++ s) rest
  | part :: rest => close pending ++ part :: joinTexts "" rest
where
  close (pending : String) : List Term :=
    if pending.toList.isEmpty then [] else [.text pending]

/-- Texts alone make one text. -/
def concatenated (parts : List Term) : Term :=
  match joinTexts "" parts with
  | [] => .text ""
  | [.text s] => .text s
  | joined => .concat joined

def concatenation : Reader Term := do
  let first ← concatPart inner
  let rest ← many (do token "~"; spaces; concatPart inner)
  if rest.isEmpty then failure else pure (concatenated (first :: rest))

def filteredText : Reader Expr :=
  withFilters inner (concatenation inner <|> (Term.text <$> quotation))

def comparisonSign : Reader Comparison :=
  (do token "<="; pure .lessOrEqual) <|> (do token ">="; pure .greaterOrEqual)
    <|> (do token ">"; pure .greater) <|> (do token "<"; pure .less)
    <|> (do token "=="; pure .equal) <|> (do token "!="; pure .unequal)

def comparisonSide : Reader Expr := filteredText inner <|> sumOf (filteredSum inner)

def comparison : Reader Expr := do
  let left ← comparisonSide inner
  let right ← optional do
    let sign ← comparisonSign
    spaces
    let right ← comparisonSide inner
    pure (sign, right)
  match right with
  | none => pure left
  | some (sign, right) => pure (.plain (.compare sign left right))

/-- `not` with the blank that has to follow it. -/
def negation : Reader Unit := do
  exactly "not"
  let _ ← one isSpace

def membership : Reader Expr := do
  let item ← filteredText inner <|> filteredSum inner
  let negated ← optional (do spaces; negation)
  token "in"
  spaces
  let container ← filteredText inner <|> inner .list
    <|> ((fun path => .plain (.lookup path)) <$> path inner)
  pure (.plain (.contains item container negated.isSome))

def clause : Reader Expr :=
  (do
    let negated ← optional negation
    spaces
    let e ← membership inner <|> comparison inner
    pure (e.withNegation negated.isSome))
  <|> (do
    exactly "("
    spaces
    let e ← inner .condition
    token ")"
    pure (e.withNegation false))

def connective (name : String) : Reader Unit := do
  token name
  let _ ← one isSpace
  spaces

/-- `true` stands for `and`. -/
def groupClauses (pending : Option Expr) (current : Expr) : List (Bool × Expr) → Expr
  | [] => close current
  | (isAnd, e) :: rest =>
    if isAnd then groupClauses pending (.plain (.both current e)) rest
    else groupClauses (some (close current)) e rest
where
  close (current : Expr) : Expr :=
    match pending with
    | none => current
    | some before => .plain (.either before current)

def condition : Reader Expr := do
  let first ← clause inner
  let rest ← many do
    let isAnd ← (do connective "or"; pure false) <|> (do connective "and"; pure true)
    let e ← clause inner
    pure (isAnd, e)
  pure (groupClauses none first rest)

/-- Items between square brackets, then filters. -/
def list : Reader Expr := do
  exactly "["
  spaces
  let items ← separated true (do spaces; clause inner)
  token "]"
  let filters ← many (filter inner)
  pure (.of (.array items) false filters)

end Rules

/-- What stands between brackets, `depth` steps into brackets at most. -/
def phrase : Nat → Kind → Reader Expr
  | 0, _ => failure
  | depth + 1, .sum => sum (phrase depth)
  | depth + 1, .condition => condition (phrase depth)
  | depth + 1, .list => list (phrase depth)
  | depth + 1, .path => (fun path => .plain (.lookup path)) <$> path (phrase depth)

end ModelForge.Template.Phrase
