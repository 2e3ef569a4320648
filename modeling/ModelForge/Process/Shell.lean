import ModelForge.Disk.Operation
import ModelForge.Process.Outcome
import ModelForge.Process.Printf
import ModelForge.Process.Word

/-! Running a script of simple commands. Commands follow one another or hang on the status of the
one before; what they print may go to a file. Other programs are run by whoever runs the
script. -/
namespace ModelForge.Process

/-- When a command is run, after the command before it has ended. -/
inductive Condition where
  | always
  | afterSuccess
  | afterFailure
deriving DecidableEq, Repr

/-- What a channel of a command is bound to before the command runs. -/
inductive Redirection where
  | create (channel : Nat) (file : List Part)
  | append (channel : Nat) (file : List Part)
  | duplicate (channel : Nat) (source : List Part)
  | read (file : List Part)

/-- A command with the line on which it stands. -/
structure SimpleCommand where
  line : Nat
  condition : Condition
  words : List (List Part)
  redirections : List Redirection

/-- The commands of a script. `command` is the one that is being read, its words and redirections
in reverse. -/
def SimpleCommand.ofTokens (command : SimpleCommand) : List Token → List SimpleCommand
  | [] => [finished]
  | .word parts :: rest => ofTokens { command with words := parts :: command.words } rest
  | .create channel :: .word file :: rest => redirected (.create channel file) rest
  | .append channel :: .word file :: rest => redirected (.append channel file) rest
  | .duplicate channel :: .word source :: rest => redirected (.duplicate channel source) rest
  | .read :: .word file :: rest => redirected (.read file) rest
  | .newline :: rest =>
    if command.words.isEmpty ∧ command.redirections.isEmpty then
      ofTokens { command with line := command.line + 1 } rest
    else finished :: ofTokens ⟨command.line + 1, .always, [], []⟩ rest
  | .stop :: rest => finished :: ofTokens ⟨command.line, .always, [], []⟩ rest
  | .andThen :: rest => finished :: ofTokens ⟨command.line, .afterSuccess, [], []⟩ rest
  | .orElse :: rest => finished :: ofTokens ⟨command.line, .afterFailure, [], []⟩ rest
  | .create _ :: rest | .append _ :: rest | .duplicate _ :: rest | .read :: rest =>
    ofTokens command rest
where
  finished : SimpleCommand :=
    { command with
      words := command.words.reverse, redirections := command.redirections.reverse }
  redirected (redirection : Redirection) (rest : List Token) : List SimpleCommand :=
    ofTokens { command with redirections := redirection :: command.redirections } rest

/-- A shell on its way through a script. -/
structure Shell where
  disk : Disk
  here : Location
  parameters : Parameters
  /-- A command that fails ends the script. -/
  strict : Bool
  printed : Printed
  ended : Option Outcome

/-- Where a channel of a command goes. -/
inductive Sink where
  | output
  | complaint
  | file (path : Path)
  | closed

structure Channels where
  output : Sink
  complaint : Sink

def Channels.bind (channels : Channels) (channel : Nat) (sink : Sink) : Channels :=
  if channel = 1 then { channels with output := sink }
  else if channel = 2 then { channels with complaint := sink }
  else channels

namespace Shell

def ending (shell : Shell) (status : Nat) : Shell :=
  { shell with
    parameters := { shell.parameters with status }
    ended := some (.exited status) }

def withStatus (shell : Shell) (status : Nat) : Shell :=
  { shell with parameters := { shell.parameters with status } }

/-- Writes a text behind what has been written. A file that cannot be written loses it. -/
def print (shell : Shell) (text : String) : Sink → Shell
  | .output => { shell with printed := shell.printed ++ ⟨text, ""⟩ }
  | .complaint => { shell with printed := shell.printed ++ ⟨"", text⟩ }
  | .closed => shell
  | .file path =>
    if text = "" then shell
    else
      let before := (shell.disk.read shell.here path).toOption.getD ByteArray.empty
      match shell.disk.write shell.here path (before ++ text.toUTF8) with
      | .ok disk => { shell with disk }
      | .error _ => shell

/-- What the shell says of a file that it cannot open. -/
def openingFault (creating : Bool) (path : Path) (fault : Fault) : String :=
  let reason := match fault, creating with
    | .notFound, true | .notADirectory, true => "Directory nonexistent"
    | .notFound, false => "No such file"
    | fault, _ => fault.reason
  (if creating then "cannot create " else "cannot open ") ++ path.text ++ ": " ++ reason

/-- Opens a file for writing; unless it is appended to, what was in it is lost. -/
def openFile (shell : Shell) (appending : Bool) (path : Path) : Except String Shell :=
  let before := if appending then
      (shell.disk.read shell.here path).toOption.getD ByteArray.empty
    else ByteArray.empty
  match shell.disk.write shell.here path before with
  | .ok disk => .ok { shell with disk }
  | .error fault => .error (openingFault true path fault)

/-- Binds the channels of a command, one redirection after the other. What keeps one from being
done is told beside the channels that were bound before it. -/
def redirect (shell : Shell) (channels : Channels) :
    List Redirection → Option String × Shell × Channels
  | [] => (none, shell, channels)
  | .create channel file :: rest =>
    let path : Path := ⟨shell.parameters.expandOne file⟩
    match shell.openFile false path with
    | .error complaint => (some complaint, shell, channels)
    | .ok shell => redirect shell (channels.bind channel (.file path)) rest
  | .append channel file :: rest =>
    let path : Path := ⟨shell.parameters.expandOne file⟩
    match shell.openFile true path with
    | .error complaint => (some complaint, shell, channels)
    | .ok shell => redirect shell (channels.bind channel (.file path)) rest
  | .duplicate channel source :: rest =>
    let sink := match shell.parameters.expandOne source with
      | "1" => channels.output
      | "2" => channels.complaint
      | _ => .closed
    redirect shell (channels.bind channel sink) rest
  | .read file :: rest =>
    let path : Path := ⟨shell.parameters.expandOne file⟩
    match shell.disk.locate shell.here path with
    | .error fault => (some (openingFault false path fault), shell, channels)
    | .ok _ => redirect shell channels rest

end Shell

/-- What a command says and how it ends. -/
structure Effect where
  shell : Shell
  status : Nat := 0
  output : String := ""
  complaint : String := ""

/-- Runs another program: the program and its arguments. -/
abbrev Spawn := Disk → Location → String → List String → Report

section Programs

variable (shell : Shell)

/-- Does something with each of several paths; where it cannot be done, the command says so. -/
def onEach (action : Disk → Location → Path → Except Fault Unit × Disk) (saying : String)
    (paths : List String) : Effect :=
  paths.foldl (fun effect path =>
    match action effect.shell.disk shell.here ⟨path⟩ with
    | (.ok (), disk) => { effect with shell := { effect.shell with disk } }
    | (.error fault, disk) =>
      { effect with
        shell := { effect.shell with disk }
        status := 1
        complaint := effect.complaint ++ saying ++ " '" ++ path ++ "': " ++ fault.reason ++ "\n" })
    { shell }

/-- An operation that changes nothing when it fails. -/
def changing (action : Disk → Location → Path → Except Fault Disk) (disk : Disk)
    (here : Location) (path : Path) : Except Fault Unit × Disk :=
  match action disk here path with
  | .ok disk => (.ok (), disk)
  | .error fault => (.error fault, disk)

/-- Makes a file that is not there yet. -/
def touch (disk : Disk) (here : Location) (path : Path) : Except Fault Disk :=
  if disk.pathExists here path then .ok disk else disk.write here path ByteArray.empty

/-- Makes the file of a device. A slash at the end of its name asks for a directory. -/
def makeDevice (shell : Shell) (kind : Device) (path : String) : Effect :=
  let made : Except Fault Disk := match shell.disk.create shell.here ⟨path⟩ (.device kind) with
    | .ok disk => if path.toList.getLast? = some '/' then .error .notFound else .ok disk
    | .error fault => .error fault
  match made with
  | .ok disk => { shell := { shell with disk } }
  | .error fault =>
    { shell, status := 1, complaint := "mknod: " ++ path ++ ": " ++ fault.reason ++ "\n" }

/-- Something that is done once a thing is gone does not mind that it was never there. -/
def forced (action : Disk → Location → Path → Except Fault Unit × Disk) (disk : Disk)
    (here : Location) (path : Path) : Except Fault Unit × Disk :=
  match action disk here path with
  | (.error .notFound, disk) => (.ok (), disk)
  | done => done

/-- The texts of several files behind one another. -/
def concatenate (paths : List String) : Effect :=
  paths.foldl (fun effect path =>
    match shell.disk.read shell.here ⟨path⟩ with
    | .ok content =>
      { effect with output := effect.output ++ (String.fromUTF8? content).getD "" }
    | .error fault =>
      { effect with
        status := 1
        complaint := effect.complaint ++ "cat: " ++ path ++ ": " ++ fault.reason ++ "\n" })
    { shell }

end Programs

/-- A status as it is written in a script. -/
def statusOf? (text : String) : Option Nat :=
  if text ≠ "" ∧ text.toList.all Char.isDigit then
    some (text.toList.foldl (fun n c => 10 * n + (c.toNat - '0'.toNat)) 0 % 256)
  else none

/-- The number of a signal that is written as a number or a name. -/
def signalOf? (text : String) : Option Nat :=
  match signalNames.find? fun (_, name) => name = text.toUpper with
  | some (number, _) => some number
  | none => (statusOf? text).filter fun number => (signalNames.lookup number).isSome

/-- What the shell says of a program that it could not run, and the status it takes from it. -/
def notRun (program : String) : Fault → Nat × String
  | .notFound => (127, program ++ ": not found")
  | fault => (126, program ++ ": " ++ fault.reason)

/-- The commands that the shell itself performs and that end a script when they are misused. -/
def isSpecial (name : String) : Bool := name ∈ [":", "exit", "set", "exec"]

section Run

variable (spawn : Spawn)

/-- Runs another program and waits for it. -/
def runProgram (shell : Shell) (complain : String → String) (program : String)
    (arguments : List String) : Effect × Outcome :=
  let report := spawn shell.disk shell.here program arguments
  let shell := { shell with disk := report.disk }
  let (status, complaint) : Nat × String := match report.outcome with
    | .notStarted fault =>
      let (status, text) := notRun program fault
      (status, complain text)
    | .exited status => (status, "")
    | .killed signal => (128 + signal, "")
  (⟨shell, status, report.printed.output, report.printed.complaint ++ complaint⟩, report.outcome)

/-- Performs one command whose words have been expanded. -/
def perform (shell : Shell) (complain : String → String) : List String → Effect
  | [] | ":" :: _ | "true" :: _ => { shell }
  | "false" :: _ => { shell, status := 1 }
  | ["exit"] => { shell := shell.ending shell.parameters.status, status := shell.parameters.status }
  | "exit" :: status :: _ =>
    match statusOf? status with
    | some status => { shell := shell.ending status, status }
    | none =>
      { shell := shell.ending 2, status := 2
        complaint := complain ("exit: Illegal number: " ++ status) }
  | ["set", "-e"] => { shell := { shell with strict := true } }
  | ["set", "+e"] => { shell := { shell with strict := false } }
  | "set" :: _ => { shell }
  | ["kill", signal, "$$"] =>
    match signalOf? (String.ofList (signal.toList.drop 1)) with
    | some number => { shell := { shell with ended := some (.killed number) } }
    | none =>
      { shell, status := 2
        complaint := complain ("kill: Illegal option " ++ String.ofList (signal.toList.take 2)) }
  | ["kill", "-s", signal, "$$"] =>
    match signalOf? signal with
    | some number => { shell := { shell with ended := some (.killed number) } }
    | none => { shell, status := 2, complaint := complain ("kill: invalid signal " ++ signal) }
  | ["kill", "$$"] => { shell := { shell with ended := some (.killed 15) } }
  | "printf" :: format :: arguments => { shell, output := formatted format arguments }
  | "echo" :: "-n" :: arguments =>
    { shell, output := unescaped (String.intercalate " " arguments) }
  | "echo" :: arguments =>
    { shell, output := unescaped (String.intercalate " " arguments) ++ "\n" }
  | ["cd", directory] =>
    match shell.disk.locate shell.here ⟨directory⟩ with
    | .ok location =>
      if shell.disk.found location = .directory then
        { shell := { shell with here := location } }
      else { shell, status := 2, complaint := complain ("cd: can't cd to " ++ directory) }
    | .error _ => { shell, status := 2, complaint := complain ("cd: can't cd to " ++ directory) }
  | "exec" :: program :: arguments =>
    let (effect, outcome) :=
      runProgram spawn shell (fun text => complain ("exec: " ++ text)) program arguments
    match outcome with
    | .notStarted _ => { effect with shell := effect.shell.ending effect.status }
    | outcome => { effect with shell := { effect.shell with ended := some outcome } }
  | "mkdir" :: "-p" :: paths =>
    onEach shell Disk.ensureDirectory "mkdir: cannot create directory" paths
  | "mkdir" :: paths =>
    onEach shell (changing Disk.makeDirectory) "mkdir: cannot create directory" paths
  | ["mknod", path, "c", "1", "3"] => makeDevice shell .null path
  | ["mknod", path, "c", "1", "7"] => makeDevice shell .full path
  | "touch" :: paths => onEach shell (changing touch) "touch: cannot touch" paths
  | "rm" :: "-rf" :: paths | "rm" :: "-fr" :: paths =>
    onEach shell (forced Disk.removeAll) "rm: cannot remove" paths
  | "rm" :: "-r" :: paths => onEach shell Disk.removeAll "rm: cannot remove" paths
  | "rm" :: "-f" :: paths =>
    onEach shell (forced (changing Disk.unlink)) "rm: cannot remove" paths
  | "rm" :: paths => onEach shell (changing Disk.unlink) "rm: cannot remove" paths
  | "cat" :: paths => concatenate shell paths
  | "sleep" :: _ => { shell }
  | program :: arguments => (runProgram spawn shell complain program arguments).1

/-- Runs one command. `last` tells that no other command hangs on how it ends. -/
def step (last : Bool) (command : SimpleCommand) (shell : Shell) : Shell :=
  let status := shell.parameters.status
  let isDue : Bool := match command.condition with
    | .always => true
    | .afterSuccess => status == 0
    | .afterFailure => status != 0
  let isBlank := command.words.isEmpty && command.redirections.isEmpty
  if shell.ended.isSome ∨ !isDue ∨ isBlank then shell
  else
    let complain (text : String) : String :=
      shell.parameters.script ++ ": " ++ toString command.line ++ ": " ++ text ++ "\n"
    let words := command.words.flatMap shell.parameters.expand
    let shell := match shell.redirect ⟨.output, .complaint⟩ command.redirections with
      | (some complaint, shell, channels) =>
        let shell := (shell.print (complain complaint) channels.complaint).withStatus 2
        if isSpecial (words.headD "") then shell.ending 2 else shell
      | (none, shell, channels) =>
        let effect := perform spawn shell complain words
        ((effect.shell.print effect.output channels.output).print effect.complaint
          channels.complaint).withStatus effect.status
    if shell.strict ∧ last ∧ shell.parameters.status ≠ 0 ∧ shell.ended.isNone then
      shell.ending shell.parameters.status
    else shell

/-- Runs commands in their order. -/
def runCommands : List SimpleCommand → Shell → Shell
  | [], shell => shell
  | command :: rest, shell =>
    let last := (rest.head?.map SimpleCommand.condition).getD .always = .always
    runCommands rest (step spawn last command shell)

/-- Runs the text of a script. -/
def runScript (disk : Disk) (here : Location) (strict : Bool) (script text : String)
    (arguments : List String) : Report :=
  let shell := runCommands spawn
    (SimpleCommand.ofTokens ⟨1, .always, [], []⟩ (tokens .between [] text.toList))
    ⟨disk, here, ⟨script, arguments, 0⟩, strict, {}, none⟩
  ⟨shell.ended.getD (.exited shell.parameters.status), shell.disk, shell.printed⟩

end Run

end ModelForge.Process
