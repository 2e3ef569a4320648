/-! What a template definition says, as trees: expressions with the filters they pass through,
and the nodes that a definition is made of. -/
namespace ModelForge.Template

inductive Arithmetic where
  | add
  | subtract
  | multiply
  | divide
  | modulo
deriving DecidableEq, Repr

inductive Comparison where
  | less
  | lessOrEqual
  | greater
  | greaterOrEqual
  | equal
  | unequal
deriving DecidableEq, Repr

mutual

/-- A term and the filters it passes through in turn. A negated expression stands for the
opposite of its truth. -/
inductive Expr where
  | of (term : Term) (negated : Bool) (filters : List Call)

inductive Term where
  | text (s : String)
  | integer (n : Int)
  /-- `units · 10^(-places)`, below zero if `negative` -/
  | decimal (negative : Bool) (units places : Nat)
  | truth (b : Bool)
  /-- A variable with the steps that lead into it, as they are written. -/
  | lookup (path : String)
  | arithmetic (operator : Arithmetic) (left right : Expr)
  | both (left right : Expr)
  | either (left right : Expr)
  | compare (operator : Comparison) (left right : Expr)
  | contains (item container : Expr) (negated : Bool)
  | test (path name : String) (negated : Bool) (arguments : List Expr)
  | call (call : Call)
  | macroCall (space : String) (call : Call)
  | array (items : List Expr)
  | concat (parts : List Term)

/-- A name with its named arguments. No two of them share a name. -/
inductive Call where
  | of (name : String) (arguments : List Argument)

inductive Argument where
  | of (name : String) (value : Expr)

end

inductive Node where
  | text (s : String)
  | print (value : Expr)
  | assign (name : String) (value : Expr) (toTemplate : Bool)
  | branch (condition : Expr) (yes no : List Node)
  | loop (key : Option String) (item : String) (container : Expr) (body fallback : List Node)
  | filtered (filter : Call) (body : List Node)
  | block (name : String) (body : List Node)
  | insert (templates : List String) (ignoreMissing : Bool)
  | exitLoop
  | nextRound
  | superBlock

/-- A reusable piece of a template. A parameter may have a literal as its default. -/
structure MacroDefinition where
  name : String
  parameters : List (String × Option Expr)
  body : List Node

/-- A definition that has been read. -/
structure Definition where
  /-- The definition this one builds on. -/
  parent : Option String
  /-- Other definitions whose macros are used, with the names given to them. -/
  libraries : List (String × String)
  macros : List MacroDefinition
  /-- The blocks that stand at the top or directly in another block, by name. A block of one of
  these names has this body wherever it stands. -/
  blocks : List (String × List Node)
  nodes : List Node

namespace Expr

/-- A term without filters. -/
def plain (term : Term) : Expr := of term false []

def term : Expr → Term
  | of term _ _ => term

def negated : Expr → Bool
  | of _ negated _ => negated

def filters : Expr → List Call
  | of _ _ filters => filters

def withNegation (negated : Bool) : Expr → Expr
  | of term _ filters => of term negated filters

end Expr

namespace Call

def name : Call → String
  | of name _ => name

def arguments : Call → List Argument
  | of _ arguments => arguments

end Call

namespace Argument

def name : Argument → String
  | of name _ => name

def value : Argument → Expr
  | of _ value => value

end Argument

end ModelForge.Template
