import ModelForge.Command.Arguments
import ModelForge.Compile.Toolchain
import ModelForge.Settings.Json

/-! The two commands of the program: one compiles a model, one lists what a repository holds. -/
namespace ModelForge.Command

structure CompileOptions where
  model : Identity
  /-- The schema modules, each as its key and its file. -/
  modules : List String
  settings : Settings
  bindingGenerator : String
deriving Repr

/-- Where a repository is looked for. -/
inductive Whereabouts where
  | at (path : Path)
  | configured (file : Path)
deriving DecidableEq, Repr

structure ListOptions where
  whereabouts : Whereabouts
  /-- The models themselves are not loaded. -/
  artifactsOnly : Bool
deriving DecidableEq, Repr

end ModelForge.Command

namespace ModelForge

inductive Command where
  | compile (options : Command.CompileOptions)
  | list (options : Command.ListOptions)

namespace Command

def compileForm : Form where
  options := [
    ⟨"name", some 'n', .value "NAME" .anyText false⟩,
    ⟨"version", some 'v', .value "VERSION" .anyText false⟩,
    ⟨"module", some 'm', .value "NAME@VERSION=PATH" .anyText true⟩,
    ⟨"output", some 'o', .value "OUTPUT" .path false⟩,
    ⟨"templates", some 't', .value "TEMPLATES" .path false⟩,
    ⟨"mode", none, .value "MODE" (.name "mode" (Mode.named.map Prod.fst)) false⟩,
    ⟨"toolchain-version", none, .value "TOOLCHAIN_VERSION" .anyText false⟩,
    ⟨"overwrite-modules", none, .nothing⟩,
    ⟨"binding-generator", none, .value "PROGRAM" .anyText false⟩,
    helpParameter]
  required := ["name", "version"]
  exclusive := []

def CompileOptions.ofGiven (given : Given) : CompileOptions :=
  let defaults : Settings := {}
  let pathOr (long : String) (default : Path) : Path :=
    ((given.value? long).map Path.mk).getD default
  { model := ⟨(given.value? "name").getD "", (given.value? "version").getD ""⟩
    modules := given.values "module"
    settings := {
      templatePath := pathOr "templates" defaults.templatePath
      outputPath := pathOr "output" defaults.outputPath
      mode := ((given.value? "mode").bind fun name => Mode.named.lookup name).getD defaults.mode
      toolchainVersion := (given.value? "toolchain-version").getD defaults.toolchainVersion
      copyPolicy := if given.has "overwrite-modules" then .overwrite else .skipExisting }
    bindingGenerator :=
      (given.value? "binding-generator").getD Compile.Toolchain.defaultBindingGenerator }

def listForm : Form where
  options := [
    ⟨"path", none, .value "PATH" .path false⟩,
    ⟨"config", none, .value "FILE" .path false⟩,
    ⟨"artifacts-only", none, .nothing⟩,
    helpParameter]
  required := []
  exclusive := [("path", "config")]

/-- A config goes before a path; the working directory does where neither is given. -/
def ListOptions.ofGiven (given : Given) : ListOptions :=
  { whereabouts :=
      match given.value? "config", given.value? "path" with
      | some file, _ => .configured ⟨file⟩
      | none, some path => .at ⟨path⟩
      | none, none => .at ⟨"."⟩
    artifactsOnly := given.has "artifacts-only" }

/-- The commands by name. -/
def named : List (String × (List String → Except Ending Command)) := [
  ("compile-plugin", fun arguments => do
    pure (.compile (.ofGiven (← compileForm.read arguments)))),
  ("list-models", fun arguments => do
    pure (.list (.ofGiven (← listForm.read arguments))))]

/-- The options before a command. -/
def programParameters : List Parameter := [helpParameter, ⟨"version", some 'V', .ending .version⟩]

/-- What comes behind `help`: names of commands, the commands having none of their own. -/
def readHelp : List String → Except Ending Command
  | [] => .error .help
  | name :: rest =>
    if (named.lookup name).isSome ∨ name = "help" then
      match rest with
      | [] => .error .help
      | word :: _ => refuse (.unknownCommand word)
    else refuse (.unknownCommand name)

/-- The first word that is no option names the command. -/
def ofWords (reading : Reading) : List String → Except Ending Command
  | [] => refuse .nothingGiven
  | word :: rest =>
    let isWord : Bool := word = "-" ∨ word.toList.head? ≠ some '-'
    let read? := if word = "help" then some readHelp else named.lookup word
    if reading.trailing then
      match read? with
      | some _ => refuse (.unexpectedArgument word)
      | none => refuse (.unknownCommand word)
    else if isWord then
      match read? with
      | some read => read rest
      | none => refuse (.unknownCommand word)
    else do ofWords (← reading.word programParameters word) rest

/-- The command that a list of arguments spells. -/
def ofArguments (arguments : List String) : Except Ending Command := ofWords .start arguments

end Command

end ModelForge
