import ModelForge.Template.Definition
import ModelForge.Template.Evaluation

/-! Running a definition. Every node yields a text; what a loop does next is kept in its frame.
A macro call and an included definition run in a frame of their own, a block in the frame that is
there. The one bound is on how deep these may nest. -/
namespace ModelForge.Template

/-- What the nodes of a definition can call upon. -/
structure Callees where
  runMacro : MacroRunner
  /-- The body that all blocks of a name have. -/
  block? : String → Option (Eval String)
  /-- A definition that can be included. -/
  included? : String → Option (Eval String)

/-- What the container of a loop is called in messages. -/
def Term.containerName? : Term → Option String
  | .lookup path => some path
  | .call function => some function.name
  | .array _ => some "an array literal"
  | _ => none

namespace Eval

/-- Changes the scope, if the change is possible. -/
def change (problem : Problem) (f : Scope → Option Scope) : Eval Unit := do
  match f (← get) with
  | some scope => set scope
  | none => fail problem

/-- Tells the loop around how to go on. -/
def direct (tag : String) (flow : Flow) : Eval String := do
  change (.outsideLoop tag) (·.direct? flow)
  pure ""

/-- Repeats a body for the rounds that are left. -/
def rounds (body : Eval String) : Nat → Eval String
  | 0 => pure ""
  | left + 1 => do
    let text ← body
    if (← get).flow = .exitLoop then pure text
    else
      change (.outsideLoop "increment") Scope.nextRound?
      pure (text ++ (← rounds body left))

/-- Runs something in a frame of its own. -/
def inFrame (frame : Frame) (body : Eval α) : Eval α := do
  modify (·.enter frame)
  let result ← body
  modify Scope.leave
  pure result

end Eval

/-- Passes a text through a filter. -/
def filterText (filter : CallMeaning) (s : String) : Eval String := do
  if filter.name = "safe" then pure s
  else pure (← filter.applyTo (.text s)).shown

section Running

variable (callees : Callees)

mutual

def Node.run : Node → Eval String
  | .text s => pure s
  | .print value => do pure (← (Expr.meaning callees.runMacro value).value).shown
  | .assign name value toTemplate => do
    let value ← (Expr.meaning callees.runMacro value).value
    modify fun scope =>
      if toTemplate then scope.assignOutside name value else scope.assign name value
    pure ""
  | .branch condition yes no => do
    if ← (Expr.meaning callees.runMacro condition).truth then runNodes yes else runNodes no
  | .loop key item container body fallback => do
    match container.term.containerName? with
    | none => Eval.fail (.unnamedContainer container.term.outline)
    | some name =>
      let value ← (Expr.meaning callees.runMacro container).value
      let loop ← Eval.ofExcept (Loop.ofValue name key item value)
      if loop.total = 0 then runNodes fallback
      else Eval.inFrame ⟨.loopBody loop, []⟩ (Eval.rounds (runNodes body) loop.total)
  | .filtered filter body => do
    let text ← runNodes body
    filterText (Call.meaning callees.runMacro filter) text
  | .block name body =>
    match callees.block? name with
    | some run => run
    | none => runNodes body
  | .insert templates ignoreMissing =>
    match templates.findSome? callees.included? with
    | some run => run
    | none => if ignoreMissing then pure "" else Eval.fail (.noTemplate templates)
  | .exitLoop => Eval.direct "break" .exitLoop
  | .nextRound => Eval.direct "continue" .nextRound
  | .superBlock => Eval.fail .superOutsideBlock

/-- Runs nodes until the loop around them goes on elsewhere. -/
def runNodes : List Node → Eval String
  | [] => pure ""
  | node :: rest => do
    let text ← Node.run node
    if (← get).flow = .onward then pure (text ++ (← runNodes rest)) else pure text

end

end Running

namespace Definition

/-- The macros that a name given to a definition stands for: `self` for its own macros, if it has
any, and so does every name that it gives to itself. -/
def macros? (definition : Definition) (template space : String) : Option (List MacroDefinition) :=
  if (space = "self" && !definition.macros.isEmpty)
      || definition.libraries.any (fun (file, given) => file = template && given = space)
  then some definition.macros
  else none

/-- The macro that a call means. -/
def findMacro (definition : Definition) (template space name : String) :
    Except Problem MacroDefinition :=
  match definition.macros? template space with
  | none => .error (.noMacroSpace space template)
  | some macros =>
    match macros.find? (·.name = name) with
    | none => .error (.noMacro space name template)
    | some found => .ok found

/-- The values of the parameters of a macro: given, by default, or missing. -/
def parameters (name : String) (arguments : List (String × Eval Value)) :
    List (String × Option Expr) → Eval (List (String × Value))
  | [] => pure []
  | (parameter, default) :: rest => do
    let value ← match arguments.lookup parameter, default with
      | some value, _ => value
      | none, some literal => (Expr.meaning (fun _ _ _ => pure "") literal).value
      | none, none => Eval.fail (.missingMacroArgument name parameter)
    pure ((parameter, value) :: (← parameters name arguments rest))

/-- What a definition can call upon, `depth` calls deep at most. -/
def callees (definition : Definition) (template : String) : Nat → Callees
  | 0 => ⟨fun space name _ => Eval.fail (.noMacro space name template), fun _ => none,
      fun _ => none⟩
  | depth + 1 =>
    let deeper := definition.callees template depth
    { runMacro := fun space name arguments => do
        let found ← Eval.ofExcept (definition.findMacro template space name)
        let bindings ← parameters name arguments found.parameters
        Eval.inFrame ⟨.macroBody space name, bindings⟩ (runNodes deeper found.body)
      block? := fun name => (definition.blocks.lookup name).map (runNodes deeper)
      included? := fun name =>
        if name = template then
          some (Eval.inFrame ⟨.included, []⟩ (runNodes deeper definition.nodes))
        else none }

/-- How deep calls may nest. -/
def callDepth : Nat := 1000

/-- Runs a definition in a context. -/
def run (definition : Definition) (template : String) (context : List (String × Value)) :
    Except Error String :=
  let scope : Scope := ⟨template, ⟨.definition, []⟩, [], context⟩
  match (runNodes (definition.callees template callDepth) definition.nodes).run.run scope with
  | (.ok text, _) => .ok text
  | (.error problem, scope) => .error (.evaluation template scope.currentMacro? problem)

/-- What other definitions this one needs. There are none to be found, except itself. -/
def checkReferences (definition : Definition) (template : String) : Except Error Unit :=
  match definition.parent with
  | some parent =>
    if parent = template then .error (.circular template)
    else .error (.missingParent template parent)
  | none =>
    match definition.libraries.find? (·.1 ≠ template) with
    | some (library, _) => .error (.missingLibrary template library)
    | none => .ok ()

end Definition

/-- Reads a definition and runs it. The name stands for it in messages. -/
def render (template source : String) (context : List (String × Value)) : Except Error String :=
  match Definition.parse? source with
  | none => .error (.malformed template)
  | some definition => do
    definition.checkReferences template
    definition.run template context

end ModelForge.Template
