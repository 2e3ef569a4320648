import ModelForge.Template.Tree
import ModelForge.Decimal.Printer
import ModelForge.Text.Visible

/-! How an expression is spelled out in a message: every part with its kind, so that what was read
can be told from what was meant. -/
namespace ModelForge.Template

/-- The value of a decimal literal. -/
def decimalValue (negative : Bool) (units places : Nat) : Float :=
  let magnitude := Float.ofScientific units true places
  if negative then -magnitude else magnitude

def Arithmetic.outline : Arithmetic → String
  | .add => "Add"
  | .subtract => "Sub"
  | .multiply => "Mul"
  | .divide => "Div"
  | .modulo => "Modulo"

def Comparison.outline : Comparison → String
  | .less => "Lt"
  | .lessOrEqual => "Lte"
  | .greater => "Gt"
  | .greaterOrEqual => "Gte"
  | .equal => "Eq"
  | .unequal => "NotEq"

/-- A part with named fields. -/
def outlineFields (kind : String) (fields : List (String × String)) : String :=
  let shown := fields.map fun (name, value) => name ++ ": " ++ value
  kind ++ " \x7b " ++ String.intercalate ", " shown ++ " \x7d"

/-- A part that wraps one other. -/
def outlineWrapped (kind inside : String) : String := kind ++ "(" ++ inside ++ ")"

def outlineList (items : List String) : String := "[" ++ String.intercalate ", " items ++ "]"

def outlineTruth (b : Bool) : String := if b then "true" else "false"

/-- Two sides of an operator that yields a truth value. -/
def outlineLogic (operator left right : String) : String :=
  outlineWrapped "Logic"
    (outlineFields "LogicExpr" [("lhs", left), ("rhs", right), ("operator", operator)])

mutual

def Expr.outline : Expr → String
  | .of term negated filters =>
    outlineFields "Expr" [("val", term.outline), ("negated", outlineTruth negated),
      ("filters", outlineList (callOutlines filters))]

def Term.outline : Term → String
  | .text s => outlineWrapped "String" (Text.shown s)
  | .integer n => outlineWrapped "Int" (toString n)
  | .decimal negative units places =>
    outlineWrapped "Float" (Decimal.spelled (decimalValue negative units places))
  | .truth b => outlineWrapped "Bool" (outlineTruth b)
  | .lookup path => outlineWrapped "Ident" (Text.shown path)
  | .arithmetic operator left right =>
    outlineWrapped "Math" (outlineFields "MathExpr" [("lhs", left.outline),
      ("rhs", right.outline), ("operator", operator.outline)])
  | .both left right => outlineLogic "And" left.outline right.outline
  | .either left right => outlineLogic "Or" left.outline right.outline
  | .compare operator left right => outlineLogic operator.outline left.outline right.outline
  | .contains item container negated =>
    outlineWrapped "In" (outlineFields "In" [("lhs", item.outline), ("rhs", container.outline),
      ("negated", outlineTruth negated)])
  | .test path name negated arguments =>
    outlineWrapped "Test" (outlineFields "Test" [("ident", Text.shown path),
      ("negated", outlineTruth negated), ("name", Text.shown name),
      ("args", outlineList (outlines arguments))])
  | .call function => outlineWrapped "FunctionCall" function.outline
  | .macroCall space (.of name arguments) =>
    outlineWrapped "MacroCall" (outlineFields "MacroCall" [("namespace", Text.shown space),
      ("name", Text.shown name), ("args", outlineArguments arguments)])
  | .array items => outlineWrapped "Array" (outlineList (outlines items))
  | .concat parts =>
    outlineWrapped "StringConcat"
      (outlineFields "StringConcat" [("values", outlineList (termOutlines parts))])

def Call.outline : Call → String
  | .of name arguments =>
    outlineFields "FunctionCall" [("name", Text.shown name), ("args", outlineArguments arguments)]

def outlines : List Expr → List String
  | [] => []
  | e :: rest => e.outline :: outlines rest

def termOutlines : List Term → List String
  | [] => []
  | t :: rest => t.outline :: termOutlines rest

def callOutlines : List Call → List String
  | [] => []
  | c :: rest => c.outline :: callOutlines rest

def outlineArguments (arguments : List Argument) : String :=
  "\x7b" ++ String.intercalate ", " (argumentOutlines arguments) ++ "\x7d"

def argumentOutlines : List Argument → List String
  | [] => []
  | .of name value :: rest => (Text.shown name ++ ": " ++ value.outline) :: argumentOutlines rest

end

/-- How a part of a concatenation is named in a message. -/
def Term.concatLabel : Term → String
  | .text s => "'" ++ s ++ "'"
  | .lookup path => path
  | _ => "unknown"

end ModelForge.Template
