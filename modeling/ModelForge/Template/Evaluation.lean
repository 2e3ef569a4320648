import ModelForge.Decimal.Remainder
import ModelForge.Template.Filter
import ModelForge.Template.Outline
import ModelForge.Template.Scope

/-! The meaning of expressions. One expression can be asked for three things: its value, its
truth, and its number. `Expr.meaning` gives all three at once from the meanings of the parts, so
each rule is stated where the expression is built. A problem leaves the scope as it was when the
problem arose, also when the problem is overcome. -/
namespace ModelForge.Template

/-- A computation that sees and changes a scope. -/
abbrev Eval := ExceptT Problem (StateM Scope)

namespace Eval

def fail (problem : Problem) : Eval α := throw problem

def ofExcept : Except Problem α → Eval α
  | .ok value => pure value
  | .error problem => throw problem

end Eval

/-- What an expression can be asked for. `number` is absent where arithmetic has no result. -/
structure Meaning where
  value : Eval Value
  truth : Eval Bool
  number : Eval (Option Number)

/-- What a term means before its filters. `value` knows whether the term is negated and whether a
default is at hand, and says beside the value whether the negation has been dealt with. `truth`
is given the value of the whole expression. -/
structure TermMeaning where
  value : (negated : Bool) → (fallback : Option (Eval Value)) → Eval (Value × Bool)
  truth : (negated : Bool) → (whole : Eval Value) → Eval Bool
  number : Eval (Option Number)
  /-- The text that the term adds to a concatenation. -/
  piece : Eval String

/-- A filter with its arguments, or a function call. -/
structure CallMeaning where
  name : String
  arguments : List (String × Eval Value)

/-- The pieces of a definition that can be called. -/
abbrev MacroRunner := (space name : String) → List (String × Eval Value) → Eval String

namespace Number

/-- Integer results have to fit into 64 bits. -/
def bounded (left right : Int) (operator : String) (result : Int) : Except Problem Number :=
  if -Int.pow 2 63 ≤ result ∧ result < Int.pow 2 63 then .ok (.integer result)
  else .error (.outOfBounds left right operator)

def ofFloat? (x : Float) : Option Number := if x.isFinite then some (.decimal x) else none

/-- Division is done on decimals; a whole quotient is an integer again, the nearest one of 64
bits. -/
def divide (left right : Number) : Option Number :=
  let quotient := left.toFloat / right.toFloat
  if quotient.isNaN then none
  else if quotient.round == quotient ∧ quotient.isFinite then
    some (.integer quotient.toInt64.toInt)
  else ofFloat? quotient

def combine (operator : Arithmetic) (shownLeft shownRight : String) (left right : Number) :
    Except Problem (Option Number) :=
  match operator, left, right with
  | .divide, _, _ => .ok (divide left right)
  | .add, .integer a, .integer b => some <$> bounded a b "+" (a + b)
  | .subtract, .integer a, .integer b => some <$> bounded a b "-" (a - b)
  | .multiply, .integer a, .integer b => some <$> bounded a b "x" (a * b)
  | .modulo, .integer a, .integer b =>
    if b = 0 then .error (.moduloByZero shownLeft shownRight)
    else .ok (some (.integer (Int.tmod a b)))
  | .add, a, b => .ok (ofFloat? (a.toFloat + b.toFloat))
  | .subtract, a, b => .ok (ofFloat? (a.toFloat - b.toFloat))
  | .multiply, a, b => .ok (ofFloat? (a.toFloat * b.toFloat))
  | .modulo, a, b => .ok (ofFloat? (Decimal.remainder a.toFloat b.toFloat))

def compare (operator : Comparison) (a b : Number) : Bool :=
  match operator with
  | .less => a.toFloat < b.toFloat
  | .lessOrEqual => a.toFloat ≤ b.toFloat
  | .greater => a.toFloat > b.toFloat
  | .greaterOrEqual => a.toFloat ≥ b.toFloat
  | .equal => a.toFloat == b.toFloat
  | .unequal => a.toFloat != b.toFloat

def isNonzero (n : Number) : Bool := n.toFloat != 0

end Number

namespace Value

/-- Whether two operands are equal or unequal. A number and anything else are neither: no
negation turns that into its opposite. -/
def compare? (wantEqual : Bool) : Value → Value → Option Bool
  | number a, number b => some (Number.compare (if wantEqual then .equal else .unequal) a b)
  | number _, _ => none
  | _, number _ => none
  | a, b => some (a.same b == wantEqual)

/-- Whether a container holds an item: a list a value, a text a text, a record a name. -/
def holds (container item : Value) : Except Problem Bool :=
  match container, item with
  | list items, item => .ok (items.any (·.same item))
  | text s, text inside => .ok (Text.occursIn inside.toList s.toList)
  | text _, item => .error (.notATextInText item)
  | record fields, text name => .ok (fields.any fun field => field.1 = name)
  | record _, item => .error (.notATextInRecord item)
  | _, _ => .error .notAContainer

end Value

namespace Eval

/-- A problem inside a computation becomes the cause of another one. -/
def within (wrap : Problem → Problem) (computation : Eval α) : Eval α :=
  tryCatchThe Problem computation fun problem => throw (wrap problem)

/-- The value of a computation, or another one if it fails. -/
def orElse (computation : Eval α) (other : α) : Eval α :=
  tryCatchThe Problem computation fun _ => pure other

end Eval

namespace TermMeaning

/-- A term whose value depends on nothing around it. -/
def ofValue (value : Eval Value) (truth : Eval Bool) (number : Eval (Option Number))
    (piece : Eval String) : TermMeaning :=
  ⟨fun _ _ => do pure (← value, false), fun negated _ => do pure ((← truth) != negated), number,
    piece⟩

def noPiece : Eval String := Eval.fail (.notConcatenable "")

def ofTruth (truth : Eval Bool) (number : Eval (Option Number)) : TermMeaning :=
  ofValue (.truth <$> truth) truth number noPiece

/-- A term that joins or compares others. `none` stands for a comparison that no negation
affects; elsewhere the truth takes the negation into account, so in the value, which is negated
like any other, it does not show. -/
def ofLogic (truth : Eval (Option Bool)) : TermMeaning :=
  let negatedTruth (negated : Bool) : Eval Bool := do
    match ← truth with
    | some b => pure (b != negated)
    | none => pure false
  ⟨fun negated _ => do pure (.truth (← negatedTruth negated), false),
    fun negated _ => negatedTruth negated, Eval.fail .valueInArithmetic, noPiece⟩

/-- A number. A problem that arises while its value is found keeps its message alone. -/
def ofNumber (number : Eval (Option Number)) (piece : Eval String) : TermMeaning :=
  ofValue
    (do match ← Eval.within .uncaused number with
        | some n => pure (.number n)
        | none => pure (.text "NaN"))
    (do match ← number with
        | some n => pure n.isNonzero
        | none => pure false)
    number piece

/-- A variable. A missing one is true when it is negated, and gives way to a default; so does a
null to a default. Asked for its truth, an expression that starts from a variable is false
whenever it has no value. -/
def ofLookup (path : String) : TermMeaning where
  value negated fallback := do
    match (← get).valueOf path, fallback with
    | .ok .null, some fallback => do pure (← fallback, false)
    | .ok value, _ => pure (value, false)
    | .error _, some fallback => do pure (← fallback, false)
    | .error problem, none =>
      if negated then pure (.truth true, true) else Eval.fail problem
  truth _ whole := Eval.orElse (Value.isTruthy <$> whole) false
  number := do
    match ← Eval.ofExcept ((← get).valueOf path) with
    | .number n => pure (some n)
    | _ => Eval.fail (.notANumber path)
  piece := do
    match ← Eval.ofExcept ((← get).valueOf path) with
    | .text s => pure s
    | .number n => pure n.text
    | _ => Eval.fail (.notConcatenable path)

/-- A text made of several parts. Its filters count when it is asked for its truth. -/
def ofConcat (whole : Eval String) (labels : List String) : TermMeaning :=
  { ofValue (.text <$> whole) (pure false) (Eval.fail (.concatenationInArithmetic labels))
      noPiece with
    truth := fun _ whole => Value.isTruthy <$> whole }

def comparison (operator : Comparison) (left right : Meaning) : Eval (Option Bool) :=
  match operator with
  | .equal => do pure ((← left.value).compare? true (← right.value))
  | .unequal => do pure ((← left.value).compare? false (← right.value))
  | operator => do
    match ← left.number, ← right.number with
    | some a, some b => pure (some (a.compare operator b))
    | _, _ => Eval.fail .comparisonWithoutNumber

end TermMeaning

namespace CallMeaning

def evaluated : List (String × Eval Value) → Eval (List (String × Value))
  | [] => pure []
  | (name, value) :: rest => do
    let value ← value
    let rest ← evaluated rest
    pure ((name, value) :: rest)

/-- The value behind a filter. -/
def applyTo (filter : CallMeaning) (value : Value) : Eval Value :=
  match Filter.named? filter.name with
  | none => Eval.fail (.noFilter filter.name)
  | some run => Eval.within (.filterFailed filter.name) do
    let arguments ← evaluated filter.arguments
    Eval.ofExcept (run arguments value)

def applyAll : List CallMeaning → Value → Eval Value
  | [], value => pure value
  | filter :: rest, value => do
    if Filter.isTransparent filter.name then applyAll rest value
    else applyAll rest (← filter.applyTo value)

/-- The value that stands in for a missing variable, when the first filter provides one. -/
def fallback? : List CallMeaning → Option (Eval Value)
  | [] => none
  | filter :: _ =>
    if filter.name = "default" then
      some ((filter.arguments.lookup "value").getD (Eval.fail .missingDefault))
    else none

end CallMeaning

namespace Meaning

/-- A term that may be negated and passes through filters. -/
def of (term : TermMeaning) (negated : Bool) (filters : List CallMeaning) : Meaning :=
  let value : Eval Value := do
    let (found, settled) ← term.value negated (CallMeaning.fallback? filters)
    if settled then pure found
    else
      let found ← CallMeaning.applyAll filters found
      pure (if negated then .truth (!found.isTruthy) else found)
  { value
    truth := term.truth negated value
    number :=
      if filters.isEmpty then term.number
      else do
        match ← value with
        | .number n => pure (some n)
        | _ => Eval.fail .valueInArithmetic }

end Meaning

/-- A test says something about a variable, which may be missing. -/
def namedTest? (name : String) : Option (Option Value → Bool) :=
  match name with
  | "defined" => some Option.isSome
  | "undefined" => some Option.isNone
  | _ => none

/-- Whether a variable passes a test. The arguments are worked out before it shows that there
should be none. -/
def testResult (path name : String) (arguments : List Meaning) : Eval Bool :=
  match namedTest? name with
  | none => Eval.fail (.noTest name)
  | some test => Eval.within (.testFailed name) do
    let values ← arguments.mapM Meaning.value
    if values.isEmpty then pure (test ((← get).valueOf path).toOption)
    else Eval.fail (.testArguments name)

section Meanings

variable (runMacro : MacroRunner)

mutual

def Expr.meaning : Expr → Meaning
  | .of term negated filters =>
    .of (Term.meaning term) negated (callMeanings filters)

def Term.meaning : Term → TermMeaning
  | .text s =>
    .ofValue (pure (.text s)) (pure (!s.toList.isEmpty)) (Eval.fail (.textInArithmetic s))
      (pure s)
  | .integer n => .ofNumber (pure (some (.integer n))) (pure (toString n))
  | .decimal negative units places =>
    let x := decimalValue negative units places
    .ofNumber (pure (some (.decimal x))) (pure (Number.decimal x).shown)
  | .truth b =>
    .ofTruth (pure b) (Eval.fail (.truthInArithmetic b))
  | .lookup path => .ofLookup path
  | .arithmetic operator left right =>
    let leftMeaning := Expr.meaning left
    let rightMeaning := Expr.meaning right
    .ofNumber (do
      match ← leftMeaning.number, ← rightMeaning.number with
      | some a, some b =>
        Eval.ofExcept (Number.combine operator left.outline right.outline a b)
      | _, _ => pure none) TermMeaning.noPiece
  | .both left right =>
    let leftMeaning := Expr.meaning left
    let rightMeaning := Expr.meaning right
    .ofLogic (some <$> do if ← leftMeaning.truth then rightMeaning.truth else pure false)
  | .either left right =>
    let leftMeaning := Expr.meaning left
    let rightMeaning := Expr.meaning right
    .ofLogic (some <$> do if ← leftMeaning.truth then pure true else rightMeaning.truth)
  | .compare operator left right =>
    .ofLogic (TermMeaning.comparison operator (Expr.meaning left) (Expr.meaning right))
  | .contains item container negated =>
    let itemMeaning := Expr.meaning item
    let containerMeaning := Expr.meaning container
    .ofTruth (do
      let item ← itemMeaning.value
      let container ← containerMeaning.value
      let found ← Eval.ofExcept (container.holds item)
      pure (found != negated)) (Eval.fail .valueInArithmetic)
  | .test path name negated arguments =>
    let argumentMeanings := meanings arguments
    .ofTruth (do pure ((← testResult path name argumentMeanings) != negated))
      (Eval.fail (.testInArithmetic name))
  | .call (.of name _) =>
    let missing {α : Type} : Eval α := Eval.fail (.noFunction name)
    .ofValue missing missing missing missing
  | .macroCall space (.of name arguments) =>
    let result := runMacro space name (argumentMeanings arguments)
    .ofValue (.text <$> result) (do pure (!(← result).toList.isEmpty))
      (Eval.fail .valueInArithmetic) TermMeaning.noPiece
  | .array items =>
    let itemMeanings := meanings items
    .ofValue (.list <$> itemMeanings.mapM Meaning.value) (pure !items.isEmpty)
      (Eval.fail .valueInArithmetic) TermMeaning.noPiece
  | .concat parts =>
    let partMeanings := termMeanings parts
    let whole : Eval String := do
      pure (String.join (← partMeanings.mapM TermMeaning.piece))
    .ofConcat whole (parts.map Term.concatLabel)

def Call.meaning : Call → CallMeaning
  | .of name arguments => ⟨name, argumentMeanings arguments⟩

def Argument.meaning : Argument → String × Eval Value
  | .of name value => (name, (Expr.meaning value).value)

def meanings : List Expr → List Meaning
  | [] => []
  | e :: rest => Expr.meaning e :: meanings rest

def termMeanings : List Term → List TermMeaning
  | [] => []
  | t :: rest => Term.meaning t :: termMeanings rest

def callMeanings : List Call → List CallMeaning
  | [] => []
  | c :: rest => Call.meaning c :: callMeanings rest

def argumentMeanings : List Argument → List (String × Eval Value)
  | [] => []
  | a :: rest => Argument.meaning a :: argumentMeanings rest

end

end Meanings

end ModelForge.Template
