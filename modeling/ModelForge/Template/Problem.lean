import ModelForge.Template.Value

/-! Why a template cannot be used. A `Problem` arises while a definition is evaluated; a
`Template.Error` is what the user of a template sees, as a chain of messages from the outermost
to the innermost cause. -/
namespace ModelForge.Template

inductive Problem where
  /-- `evaluated` is the path with its brackets worked out. -/
  | missingVariable (path template : String) (evaluated : Option String)
  | badSubscript (path : String) (cause : Problem)
  | subscriptKind (subscript path : String)
  | noFilter (name : String)
  | noFunction (name : String)
  | noTest (name : String)
  | noTemplate (names : List String)
  | noMacroSpace (space template : String)
  | noMacro (space name template : String)
  | missingMacroArgument (name argument : String)
  | filterFailed (name : String) (cause : Problem)
  | testFailed (name : String) (cause : Problem)
  | testArguments (name : String)
  | wrongValue (filter : String) (value : Value) (expected : String)
  | wrongArgument (filter argument : String) (value : Value) (expected : String)
  | noLength
  | missingSeparator
  | missingArgument (filter argument : String)
  | missingDefault
  | outOfBounds (left right : Int) (operator : String)
  | moduloByZero (left right : String)
  | notANumber (path : String)
  | textInArithmetic (s : String)
  | truthInArithmetic (b : Bool)
  | testInArithmetic (name : String)
  | concatenationInArithmetic (parts : List String)
  | valueInArithmetic
  /-- A problem whose causes are no longer known. -/
  | uncaused (problem : Problem)
  | comparisonWithoutNumber
  | notConcatenable (path : String)
  | notATextInText (value : Value)
  | notATextInRecord (value : Value)
  | notAContainer
  | notIterable (container : String)
  | needsKey (container : String)
  | noKeys (container : String)
  | unnamedContainer (shown : String)
  | outsideLoop (tag : String)
  | superOutsideBlock

namespace Problem

def message : Problem → String
  | missingVariable path template none =>
    s!"Variable \x60{path}\x60 not found in context while rendering '{template}'"
  | missingVariable path template (some evaluated) =>
    s!"Variable \x60{path}\x60 not found in context while rendering '{template}': "
      ++ s!"the evaluated version was \x60{evaluated}\x60. Maybe the index is out of bounds?"
  | badSubscript path cause => s!"Variable {path} can not be evaluated because: {cause.message}"
  | subscriptKind subscript path =>
    "Only variables evaluating to String or Number can be used as index "
      ++ s!"(\x60{subscript}\x60 of \x60{path}\x60)"
  | noFilter name => s!"Filter '{name}' not found"
  | noFunction name => s!"Function '{name}' not found"
  | noTest name => s!"Test '{name}' not found"
  | noTemplate names => "Template '[" ++ String.intercalate ", " names ++ "]' not found"
  | noMacroSpace space template =>
    s!"Macro namespace \x60{space}\x60 was not found in template \x60{template}\x60. "
      ++ "Have you maybe forgotten to import it, or misspelled it?"
  | noMacro space name template =>
    s!"Macro \x60{space}::{name}\x60 not found in template \x60{template}\x60"
  | missingMacroArgument name argument =>
    s!"Macro \x60{name}\x60 is missing the argument \x60{argument}\x60"
  | filterFailed name _ => s!"Filter call '{name}' failed"
  | testFailed name _ => s!"Test call '{name}' failed"
  | testArguments name =>
    s!"Tester \x60{name}\x60 was called with some args but this test doesn't take args"
  | wrongValue filter value expected =>
    s!"Filter \x60{filter}\x60 was called on an incorrect value: got \x60{value.json}\x60 "
      ++ s!"but expected a {expected}"
  | wrongArgument filter argument value expected =>
    s!"Filter \x60{filter}\x60 received an incorrect type for arg \x60{argument}\x60: "
      ++ s!"got \x60{value.json}\x60 but expected a {expected}"
  | noLength =>
    "Filter \x60length\x60 was used on a value that isn't an array, an object, or a string."
  | missingSeparator => "Filter \x60split\x60 expected an arg called \x60pat\x60"
  | missingArgument filter argument =>
    s!"filter \x60{filter}\x60 expects a \x60{argument}\x60 argument"
  | missingDefault => "The \x60default\x60 filter requires a \x60value\x60 argument."
  | outOfBounds left right operator =>
    s!"{left} {operator} {right} results in an out of bounds i64"
  | moduloByZero left right => s!"Tried to do a modulo by zero: {left}/{right}"
  | notANumber path =>
    s!"Variable \x60{path}\x60 was used in a math operation but is not a number"
  | textInArithmetic s => s!"Tried to do math with a string: \x60{s}\x60"
  | truthInArithmetic b => s!"Tried to do math with a boolean: \x60{b}\x60"
  | testInArithmetic name => s!"Tried to do math with a test: {name}"
  | concatenationInArithmetic parts =>
    "Tried to do math with a string concatenation: " ++ String.intercalate " ~ " parts
  | uncaused problem => problem.message
  | valueInArithmetic => "Tried to do math with an expression not resulting in a number"
  | comparisonWithoutNumber => "Comparison to NaN"
  | notConcatenable path =>
    s!"Tried to concat a value that is not a string or a number from ident {path}"
  | notATextInText value =>
    s!"Tried to check if {value.described} is in a string, but it isn't a string"
  | notATextInRecord value =>
    s!"Tried to check if {value.described} is in a object, but it isn't a string"
  | notAContainer => "The \x60in\x60 operator only supports strings, arrays and objects."
  | notIterable container =>
    s!"Tried to iterate on a container (\x60{container}\x60) that has a unsupported type"
  | needsKey container =>
    s!"Tried to iterate using key value on variable \x60{container}\x60, but it is missing a key"
  | noKeys container =>
    s!"Tried to iterate using key value on variable \x60{container}\x60, "
      ++ "but it isn't an object/map"
  | unnamedContainer shown =>
    "Forloop containers have to be an ident or a function call "
      ++ s!"(tried to iterate on '{shown}')"
  | outsideLoop tag => s!"Attempted \x60{tag}\x60 while not in \x60for loop\x60"
  | superOutsideBlock => "Tried to use super() in the top level block"

/-- The messages of a problem and of what caused it. -/
def chain : Problem → List String
  | filterFailed name cause => message (.filterFailed name cause) :: cause.chain
  | testFailed name cause => message (.testFailed name cause) :: cause.chain
  | other => [message other]

end Problem

/-- What is wrong with the template of a given name. -/
inductive Error where
  | malformed (template : String)
  /-- The definition builds on itself. -/
  | circular (template : String)
  | missingParent (template parent : String)
  | missingLibrary (template library : String)
  /-- `inMacro` names the macro whose own body was being evaluated. -/
  | evaluation (template : String) (inMacro : Option (String × String)) (problem : Problem)

namespace Error

def chain : Error → List String
  | malformed template => [s!"Failed to parse '{template}'"]
  | circular template =>
    [s!"Circular extend detected for template '{template}'. Inheritance chain: "
      ++ s!"\x60[{Text.shown template}]\x60"]
  | missingParent template parent =>
    [s!"Template '{template}' is inheriting from '{parent}', which doesn't exist or isn't loaded."]
  | missingLibrary template library =>
    [s!"Template \x60{template}\x60 loads macros from \x60{library}\x60 "
      ++ "which isn't present in Tera"]
  | evaluation template inMacro problem =>
    let place := match inMacro with
      | some (space, name) => s!": error while rendering macro \x60{space}::{name}\x60"
      | none => ""
    (s!"Failed to render '{template}'" ++ place) :: problem.chain

def message (error : Error) : String := error.chain.headD ""

end Error

end ModelForge.Template
