import ModelForge.Template.Problem
import ModelForge.Text.Cluster
import ModelForge.Text.Fields

/-! What names mean while a definition is evaluated. A frame is opened by the definition itself,
by each macro call, by each included definition and by each loop; names are looked for from the
innermost frame outwards, but not beyond the frame of a macro, and last in the values given from
outside. A frame is closed by whoever opened it when that comes to an end, so a macro that fails
leaves its frame open. -/
namespace ModelForge.Template

/-- How a loop goes on. -/
inductive Flow where
  | onward
  | exitLoop
  | nextRound
deriving DecidableEq

/-- A loop with the round it is in. -/
structure Loop where
  keyName : Option String
  itemName : String
  items : Array (String × Value)
  /-- The number of rounds. A text has one for each code point, and its items are what a reader
  sees as characters, so there may be fewer of them. -/
  total : Nat
  index : Nat
  flow : Flow

inductive FrameKind where
  | definition
  | included
  | macroBody (space name : String)
  | loopBody (loop : Loop)

/-- The newest binding comes first. -/
structure Frame where
  kind : FrameKind
  bindings : List (String × Value)

structure Scope where
  template : String
  /-- The innermost frame comes first, and there is always one. -/
  inner : Frame
  outer : List Frame
  context : List (String × Value)

namespace Loop

/-- The loop over a value; the container's name stands for it in messages. -/
def ofValue (container : String) (key : Option String) (item : String) :
    Value → Except Problem Loop
  | .list items =>
    if key.isSome then .error (.noKeys container)
    else .ok ⟨none, item, (items.map (("", ·))).toArray, items.length, 0, .onward⟩
  | .text s =>
    if key.isSome then .error (.noKeys container)
    else
      let characters := (Text.clusters s.toList).map fun c => ("", Value.text (String.ofList c))
      .ok ⟨none, item, characters.toArray, s.toList.length, 0, .onward⟩
  | .record fields =>
    if key.isSome then .ok ⟨key, item, fields.toArray, fields.length, 0, .onward⟩
    else .error (.needsKey container)
  | _ => .error (.notIterable container)

def key? (loop : Loop) : Option String := loop.items[loop.index]?.map (·.1)

def item? (loop : Loop) : Option Value := loop.items[loop.index]?.map (·.2)

def next (loop : Loop) : Loop := { loop with index := loop.index + 1, flow := .onward }

end Loop

namespace Frame

def bind (frame : Frame) (name : String) (value : Value) : Frame :=
  { frame with bindings := (name, value) :: frame.bindings }

def isLoop (frame : Frame) : Bool :=
  match frame.kind with
  | .loopBody _ => true
  | _ => false

/-- Whether the frames around this one can be seen from it. -/
def isOpen (frame : Frame) : Bool :=
  match frame.kind with
  | .loopBody _ | .included => true
  | _ => false

end Frame

namespace Scope

/-- Steps of a path are separated by dots; between two equal quotes a step may hold dots. -/
def splitSteps (quote : Option Char) (step : List Char) : List Char → List (List Char)
  | [] => [step.reverse]
  | c :: rest =>
    if c = '.' ∧ quote = none then step.reverse :: splitSteps none [] rest
    else
      let isQuote := c = '"' || c = '\''
      let quote :=
        if isQuote && quote.isNone then some c else if quote = some c then none else quote
      splitSteps quote (c :: step) rest

def isQuote (c : Char) : Bool := c == '"' || c == '\''

/-- A step without its quotes and with its slashes. -/
def stepName (step : List Char) : String :=
  let inside := ((step.dropWhile isQuote).reverse.dropWhile isQuote).reverse
  String.ofList
    (Text.replaceAll ['~', '0'] ['~'] (Text.replaceAll ['~', '1'] ['/'] inside))

def stepsOf (path : List Char) : List String := (splitSteps none [] path).map stepName

def descend (value : Value) : List String → Option Value
  | [] => some value
  | step :: rest => (value.part? step).bind fun part => descend part rest

/-- The part of a named value that a path without brackets means. -/
def inBindings (bindings : List (String × Value)) (path : String) : Option Value :=
  match Text.cut? '.' path.toList with
  | none => bindings.lookup path
  | some (name, steps) =>
    (bindings.lookup (String.ofList name)).bind fun value => descend value (stepsOf steps)

/-- What a loop says about itself. -/
def loopFact (loop : Loop) : String → Option Value
  | "index" => some (.number (.integer (loop.index + 1)))
  | "index0" => some (.number (.integer loop.index))
  | "first" => some (.truth (loop.index = 0))
  | "last" => some (.truth (loop.index + 1 = loop.total))
  | _ => none

/-- A loop knows its key, itself under the name `loop`, and its item, in this order. -/
def inLoop (loop : Loop) (path : String) : Option Value :=
  if loop.keyName = some path then loop.key?.map .text
  else
    let (name, steps) := (Text.cut? '.' path.toList).getD (path.toList, [])
    if String.ofList name = "loop" then loopFact loop (String.ofList steps)
    else loop.item?.bind fun item => inBindings [(loop.itemName, item)] path

def inFrame (frame : Frame) (path : String) : Option Value :=
  match inBindings frame.bindings path with
  | some value => some value
  | none =>
    match frame.kind with
    | .loopBody loop => inLoop loop path
    | _ => none

def inFrames (path : String) : List Frame → Option Value
  | [] => none
  | frame :: rest =>
    match inFrame frame path with
    | some value => some value
    | none => if frame.isOpen then inFrames path rest else none

/-- The value of a path without brackets. -/
def find? (scope : Scope) (path : String) : Option Value :=
  match inFrames path (scope.inner :: scope.outer) with
  | some value => some value
  | none => inBindings scope.context path

/-- How far a scan for brackets has come. -/
inductive BracketScan where
  | outside
  | opened
  | within (depth : Nat) (collected : List Char)

/-- What stands in the outer brackets of a path, quoted names and numbers left out. -/
def subscripts : BracketScan → List Char → List (List Char)
  | _, [] => []
  | .outside, c :: rest => subscripts (if c = '[' then .opened else .outside) rest
  | .opened, c :: rest =>
    subscripts (if isQuote c then .outside else .within 1 [c]) rest
  | .within depth collected, c :: rest =>
    let depth := if c = '[' then depth + 1 else if c = ']' then depth - 1 else depth
    if depth = 0 then
      let subscript := collected.reverse
      if (Value.index? subscript).isSome then subscripts .outside rest
      else subscript :: subscripts .outside rest
    else subscripts (.within depth (c :: collected)) rest

/-- Puts a text in place of the first occurrence of another. -/
def replaceFirst (search replacement : List Char) : List Char → List Char
  | [] => []
  | c :: rest =>
    if search.isPrefixOf (c :: rest) then replacement ++ (c :: rest).drop search.length
    else c :: replaceFirst search replacement rest

/-- The path with its brackets written as steps. -/
def withoutBrackets (path : List Char) : List Char :=
  let exchange (search replacement : String) (s : List Char) :=
    Text.replaceAll search.toList replacement.toList s
  exchange "]" "" <| exchange "\"]" "\"" <| exchange "']" "\"" <| exchange "[" "."
    <| exchange "[\"" ".\"" <| exchange "['" ".\"" <| exchange "/" "~1" path

/-- The value of a variable with its steps. Variables in brackets are looked up first, `depth`
levels deep at most. -/
def lookup (scope : Scope) : Nat → String → Except Problem Value
  | 0, path => .error (.missingVariable path scope.template none)
  | depth + 1, path =>
    let chars := path.toList
    if chars.contains '[' then do
      let evaluated ← (subscripts .outside chars).foldlM (fun key subscript => do
        let name := String.ofList subscript
        let index ← match scope.lookup depth name with
          | .error cause => .error (.badSubscript path cause)
          | .ok (.text s) => .ok ("\"" ++ s ++ "\"")
          | .ok (.number n) => .ok n.text
          | .ok _ => .error (.subscriptKind name path)
        pure (replaceFirst ('[' :: subscript ++ [']']) ('.' :: index.toList) key)) chars
      let evaluated := String.ofList (withoutBrackets evaluated)
      match scope.find? evaluated with
      | some value => .ok value
      | none => .error (.missingVariable path scope.template (some evaluated))
    else
      match scope.find? path with
      | some value => .ok value
      | none => .error (.missingVariable path scope.template none)

/-- Binds a name in place of what it meant. -/
def rebind (fields : List (String × Value)) (name : String) (value : Value) :
    List (String × Value) :=
  (name, value) :: fields.filter (·.1 ≠ name)

/-- All that a frame binds, added to what other frames bind. -/
def addFrame (frame : Frame) (fields : List (String × Value)) : List (String × Value) :=
  let fields := frame.bindings.foldr (fun (name, value) fields => rebind fields name value) fields
  match frame.kind with
  | .loopBody loop =>
    let fields := rebind fields loop.itemName (loop.item?.getD .null)
    match loop.keyName, loop.key? with
    | some name, some key => rebind fields name (.text key)
    | _, _ => fields
  | _ => fields

/-- All names that can be seen. Of one name in several frames the outermost counts, and a macro
sees its own names only. -/
def visible (context : List (String × Value)) (fields : List (String × Value)) :
    List Frame → List (String × Value)
  | [] => fields.foldr (fun (name, value) all => rebind all name value) context
  | frame :: rest =>
    let fields := addFrame frame fields
    match frame.kind with
    | .macroBody _ _ => fields
    | _ => visible context fields rest

/-- The name that stands for everything that can be seen. -/
def wholeContext : String := "__tera_context"

def valueOf (scope : Scope) (path : String) : Except Problem Value :=
  if path = wholeContext then
    let all := visible scope.context [] (scope.inner :: scope.outer)
    .ok (.text ((Value.ofFields all).pretty ""))
  else scope.lookup (path.toList.length + 1) path

/-- Opens a frame. -/
def enter (scope : Scope) (frame : Frame) : Scope :=
  { scope with inner := frame, outer := scope.inner :: scope.outer }

/-- Closes the innermost frame; the last one stays. -/
def leave (scope : Scope) : Scope :=
  match scope.outer with
  | [] => scope
  | frame :: rest => { scope with inner := frame, outer := rest }

def assign (scope : Scope) (name : String) (value : Value) : Scope :=
  { scope with inner := scope.inner.bind name value }

/-- Binds a name in the innermost frame that belongs to no loop. -/
def bindOutside (name : String) (value : Value) : List Frame → List Frame
  | [] => []
  | frame :: rest =>
    if frame.isLoop then frame :: bindOutside name value rest else frame.bind name value :: rest

def assignOutside (scope : Scope) (name : String) (value : Value) : Scope :=
  match bindOutside name value (scope.inner :: scope.outer) with
  | [] => scope
  | frame :: rest => { scope with inner := frame, outer := rest }

def loop? (scope : Scope) : Option Loop :=
  match scope.inner.kind with
  | .loopBody loop => some loop
  | _ => none

/-- How the innermost frame goes on. -/
def flow (scope : Scope) : Flow :=
  match scope.loop? with
  | some loop => loop.flow
  | none => .onward

/-- The next round of the loop whose frame is innermost; what the last one bound is gone. -/
def nextRound? (scope : Scope) : Option Scope :=
  scope.loop?.map fun loop => { scope with inner := ⟨.loopBody loop.next, []⟩ }

/-- Says how the loop whose frame is innermost goes on. -/
def direct? (scope : Scope) (flow : Flow) : Option Scope :=
  scope.loop?.map fun loop =>
    { scope with inner := { scope.inner with kind := .loopBody { loop with flow } } }

def currentMacro? (scope : Scope) : Option (String × String) :=
  match scope.inner.kind with
  | .macroBody space name => some (space, name)
  | _ => none

end Scope

end ModelForge.Template
