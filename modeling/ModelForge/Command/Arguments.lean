import ModelForge.Text.Fields
import ModelForge.Text.Terminal

/-! Arguments of a command: options with values and flags, in long and short form. An option's
value is looked at only once the option is complete, which is when the next option starts or the
arguments are over; a word that fits nowhere is reported before that. -/
namespace ModelForge.Command

/-- What a value has to be. -/
inductive Kind where
  | anyText
  /-- A text that is not empty. -/
  | path
  /-- One of a few names, whatever the case of their letters. -/
  | name (what : String) (known : List String)

/-- What is wrong with the arguments of a command. -/
inductive Misuse where
  | nothingGiven
  | unknownCommand (word : String)
  | unexpectedArgument (word : String)
  | unexpectedValue (value option : String)
  | missingValue (option : String)
  | invalidValue (value option reason : String)
  | conflict (option other : String)
  | repeated (option : String)
  | missingRequired (options : List String)
deriving DecidableEq, Repr

/-- What the program is for. -/
def purpose : String := "Compile and inspect configuration model plugins"

/-- A part of a message that a terminal sets apart. -/
def marked (s : String) : String := "\x1b[1m" ++ s ++ "\x1b[0m"

namespace Misuse

/-- What a terminal shows. Whoever gives no arguments learns what the program is for. -/
def message : Misuse → String
  | nothingGiven => purpose
  | unknownCommand word => s!"error: unrecognized subcommand '{marked word}'"
  | unexpectedArgument word => s!"error: unexpected argument '{marked word}' found"
  | unexpectedValue value option =>
    s!"error: unexpected value '{marked value}' for '{marked option}' found; "
      ++ "no more were expected"
  | missingValue option =>
    s!"error: a value is required for '{marked option}' but none was supplied"
  | invalidValue value option reason =>
    s!"error: invalid value '{marked value}' for '{marked option}': {reason}"
  | conflict option other =>
    s!"error: the argument '{marked option}' cannot be used with '{marked other}'"
  | repeated option =>
    s!"error: the argument '{marked option}' cannot be used multiple times"
  | missingRequired options =>
    "error: the following required arguments were not provided:"
      ++ String.join (options.map fun option => "\n  " ++ marked option)

/-- The message with the advice that follows it, as it is shown elsewhere. -/
def report (misuse : Misuse) : String :=
  Text.Terminal.shown
    (misuse.message ++ "\n\nFor more information, try '" ++ marked "--help" ++ "'.\n")

end Misuse

/-- Why the arguments make no command: one of them is wrong, or asks for something else. -/
inductive Ending where
  | misuse (misuse : Misuse)
  | help
  | version
deriving DecidableEq, Repr

inductive Takes where
  | nothing
  /-- Nothing, and all that follows does not count. -/
  | ending (ending : Ending)
  | value (placeholder : String) (kind : Kind) (repeatable : Bool)

/-- An option that a command knows. -/
structure Parameter where
  long : String
  short : Option Char
  takes : Takes

/-- How messages name an option. -/
def Parameter.shown (option : Parameter) : String :=
  match option.takes with
  | .value placeholder _ _ => s!"--{option.long} <{placeholder}>"
  | _ => "--" ++ option.long

/-- The option that asks what a command does. -/
def helpParameter : Parameter := ⟨"help", some 'h', .ending .help⟩

def refuse (misuse : Misuse) : Except Ending α := .error (.misuse misuse)

/-- A name with its ASCII letters in lower case. -/
def lowered (s : String) : String := String.ofList (s.toList.map Char.toLower)

/-- A value is kept as it was given, except that names lose their upper case. -/
def Kind.check (kind : Kind) (option value : String) : Except Ending String :=
  match kind with
  | anyText => .ok value
  | path => if value.isEmpty then refuse (.missingValue option) else .ok value
  | name what known =>
    let low := lowered value
    let choices := String.intercalate ", " known
    if known.contains low then .ok low
    else refuse (.invalidValue value option s!"unknown {what} '{low}'; expected: {choices}")

/-- The options that a command was given with their values, in the order in which they first
came. -/
abbrev Given := List (String × List String)

namespace Given

def has (given : Given) (long : String) : Bool := (given.lookup long).isSome

/-- All values of an option. -/
def values (given : Given) (long : String) : List String := (given.lookup long).getD []

def value? (given : Given) (long : String) : Option String := (given.values long).head?

def add (given : Given) (long : String) (more : List String) : Given :=
  if given.has long then
    given.map fun (name, values) => if name = long then (name, values ++ more) else (name, values)
  else given ++ [(long, more)]

end Given

/-- How far the reading of arguments has come. -/
structure Reading where
  given : Given
  /-- An option that is not complete yet, with its value once that has come. -/
  pending : Option (Parameter × Option String)
  /-- Only words come from here on. -/
  trailing : Bool

namespace Reading

def start : Reading := ⟨[], none, false⟩

/-- Takes in an option that is complete. -/
def accept (reading : Reading) (option : Parameter) (value : Option String) :
    Except Ending Reading :=
  let again := reading.given.has option.long
  let add (values : List String) : Reading :=
    { reading with given := reading.given.add option.long values }
  match option.takes, value with
  | .ending ending, _ => .error ending
  | .nothing, _ => if again then refuse (.repeated option.shown) else .ok (add [])
  | .value _ _ _, none => refuse (.missingValue option.shown)
  | .value _ kind repeatable, some value =>
    if again ∧ ¬ repeatable then refuse (.repeated option.shown)
    else (kind.check option.shown value).map fun value => add [value]

/-- Completes the option that is pending. -/
def settle (reading : Reading) : Except Ending Reading :=
  match reading.pending with
  | none => .ok reading
  | some (option, value) => { reading with pending := none }.accept option value

/-- An option that brings its value along or needs none. -/
def complete (reading : Reading) (option : Parameter) (value : Option String) :
    Except Ending Reading := do
  (← reading.settle).accept option value

/-- An option whose value is the next word. -/
def await (reading : Reading) (option : Parameter) : Except Ending Reading := do
  pure { (← reading.settle) with pending := some (option, none) }

variable (options : List Parameter)

/-- An option in long form, after its two dashes. -/
def long (reading : Reading) (word : List Char) : Except Ending Reading :=
  let (name, value) := match Text.cut? '=' word with
    | some (name, value) => (String.ofList name, some (String.ofList value))
    | none => (String.ofList word, none)
  match options.find? (·.long = name) with
  | none => refuse (.unexpectedArgument ("--" ++ name))
  | some option =>
    match option.takes, value with
    | .value _ _ _, some value => reading.complete option (some value)
    | .value _ _ _, none => reading.await option
    | _, some value => refuse (.unexpectedValue value option.shown)
    | _, none => reading.complete option none

/-- Options in short form, after their dash. The first that takes a value takes the rest of the
word for it. -/
def short (reading : Reading) : List Char → Except Ending Reading
  | [] => .ok reading
  | c :: rest =>
    match options.find? (·.short = some c) with
    | none => refuse (.unexpectedArgument (String.ofList ['-', c]))
    | some option =>
      match option.takes with
      | .value _ _ _ =>
        match rest with
        | [] => reading.await option
        | '=' :: value => reading.complete option (some (String.ofList value))
        | value => reading.complete option (some (String.ofList value))
      | _ => do short (← reading.complete option none) rest

/-- Reads one word. -/
def word (reading : Reading) (w : String) : Except Ending Reading :=
  if reading.trailing then refuse (.unexpectedArgument w)
  else
    match w.toList with
    | ['-', '-'] => .ok { reading with trailing := true }
    | '-' :: '-' :: rest => reading.long options rest
    | '-' :: c :: rest => reading.short options (c :: rest)
    | _ =>
      match reading.pending with
      | some (option, none) => .ok { reading with pending := some (option, some w) }
      | _ => refuse (.unexpectedArgument w)

end Reading

/-- What a command takes. -/
structure Form where
  options : List Parameter
  required : List String
  /-- Pairs of options that exclude each other. -/
  exclusive : List (String × String)

namespace Form

def shown (form : Form) (long : String) : String :=
  match form.options.find? (·.long = long) with
  | some option => option.shown
  | none => "--" ++ long

/-- The first option given that excludes another one given. -/
def conflict? (form : Form) (given : Given) : Option (String × String) :=
  given.findSome? fun (name, _) =>
    form.exclusive.findSome? fun (a, b) =>
      if name = a ∧ given.has b then some (a, b)
      else if name = b ∧ given.has a then some (b, a)
      else none

/-- The options in the arguments of a command. -/
def read (form : Form) (arguments : List String) : Except Ending Given := do
  let reading ← arguments.foldlM (Reading.word form.options) .start
  let given := (← reading.settle).given
  match form.conflict? given with
  | some (option, other) => refuse (.conflict (form.shown option) (form.shown other))
  | none =>
    let missing := form.required.filter (!given.has ·)
    if missing.isEmpty then pure given
    else refuse (.missingRequired (missing.map form.shown))

end Form

end ModelForge.Command
