import ModelForge.Process.Shell

/-! Running a program by its name. A file that may be run is a program of the machine or a script,
whose first line names the program that reads it. -/
namespace ModelForge.Process

/-- The programs of the machine. -/
inductive Native where
  /-- Looks at nothing and ends with a status. -/
  | exits (status : UInt8)
  /-- Ends with a status, and names the first option among its arguments as one that it does not
  know. -/
  | refuses (status : UInt8)
  /-- Prints its arguments. -/
  | echo
  /-- Reads scripts. -/
  | shell
deriving DecidableEq, Repr

namespace Native

/-- The bytes with which the file of a program starts. -/
def stamp : List UInt8 := [0x7f, 0x45, 0x4c, 0x46]

/-- The file of a program. -/
def image : Native → ByteArray
  | exits status => ⟨(stamp ++ [1, status]).toArray⟩
  | refuses status => ⟨(stamp ++ [2, status]).toArray⟩
  | echo => ⟨(stamp ++ [3]).toArray⟩
  | shell => ⟨(stamp ++ [4]).toArray⟩

def ofImage? (content : ByteArray) : Option Native :=
  match content.data.toList with
  | [0x7f, 0x45, 0x4c, 0x46, 1, status] => some (.exits status)
  | [0x7f, 0x45, 0x4c, 0x46, 2, status] => some (.refuses status)
  | [0x7f, 0x45, 0x4c, 0x46, 3] => some .echo
  | [0x7f, 0x45, 0x4c, 0x46, 4] => some .shell
  | _ => none

@[simp] theorem ofImage?_image (native : Native) : ofImage? native.image = some native := by
  cases native <;> rfl

end Native

/-- A program with the name that it was called by and what it was given. -/
structure Call where
  native : Native
  name : String
  arguments : List String
deriving DecidableEq, Repr

/-- How many of its first bytes tell what a file is. -/
def headLength : Nat := 256

def isBlank (b : UInt8) : Bool := b == 0x20 || b == 0x09

/-- Bytes as text. What is not well-formed is read byte by byte. -/
def textOf (bytes : List UInt8) : String :=
  match String.fromUTF8? ⟨bytes.toArray⟩ with
  | some text => text
  | none => String.ofList (bytes.map fun b => Char.ofNat b.toNat)

/-- The program that a script names on its first line, with at most one argument: all that follows
the blanks behind the name. Blanks at the end of the line do not count, but where the file ends
without a line end they make an empty argument. A line that is cut off must at least show where
the name ends. -/
def interpreter (content : ByteArray) : Except Fault (String × Option String) :=
  let first := content.data.toList.take headLength
  match first with
  | 0x23 :: 0x21 :: bytes =>
    let stretch := bytes.takeWhile fun b => b != 0x0a && b != 0
    let next := bytes[stretch.length]?
    let isCut := next = none ∧ first.length = headLength
    let hasEnd := isCut ∨ next = some 0x0a
    let line := if isCut then stretch.dropLast else stretch
    let line := if hasEnd then (line.reverse.dropWhile isBlank).reverse else line
    let named := line.dropWhile isBlank
    let name := named.takeWhile (!isBlank ·)
    let behind := named.drop name.length
    let shows := (stretch.dropWhile isBlank).any isBlank
    if (hasEnd ∧ name = []) ∨ (isCut ∧ !shows) then .error .badExecutable
    else
      .ok (textOf name, if behind = [] then none else some (textOf (behind.dropWhile isBlank)))
  | _ => .error .badExecutable

/-- The content of a file that may be run. -/
def executable (disk : Disk) (here : Location) (file : Path) : Except Fault ByteArray :=
  match disk.locate here file with
  | .error fault => .error fault
  | .ok location =>
    match disk.found location with
    | .file content true => .ok content
    | _ => .error .permissionDenied

/-- The content of a program that a script names. A script that names nothing means its directory,
which cannot be run. -/
def readerOf (disk : Disk) (here : Location) (name : String) : Except Fault ByteArray :=
  if name = "" then .error .permissionDenied else executable disk here ⟨name⟩

/-- How many scripts may be read by scripts in turn. -/
def interpreterLimit : Nat := 5

/-- The program that a file with some content comes to, and what it is given: what the scripts on
the way to it add stands in front. -/
def resolve (disk : Disk) (here : Location) :
    Nat → (file : String) → ByteArray → List String → Except Fault Call
  | limit, file, content, arguments =>
    match Native.ofImage? content with
    | some native => .ok ⟨native, file, arguments⟩
    | none =>
      match interpreter content with
      | .error fault => .error fault
      | .ok (name, argument) =>
        match readerOf disk here name, limit with
        | .error fault, _ => .error fault
        | .ok _, 0 => .error .tooManyLinks
        | .ok reader, limit + 1 =>
          resolve disk here limit name reader (argument.toList ++ file :: arguments)

/-- The program that a path comes to. It goes by the name that was given for it. -/
def resolvePath (disk : Disk) (here : Location) (name : String) (file : Path)
    (arguments : List String) : Except Fault Call := do
  let content ← executable disk here file
  match Native.ofImage? content with
  | some native => pure ⟨native, name, arguments⟩
  | none => resolve disk here interpreterLimit file.text content arguments

/-- The directories in which a name without a slash is looked up. -/
def searched : List Path := [⟨"/usr/local/bin"⟩, ⟨"/usr/bin"⟩, ⟨"/bin"⟩]

/-- The program that a name without a slash means. A file that may not be run is passed over. -/
def search (disk : Disk) (here : Location) (name : String) (arguments : List String) :
    Fault → List Path → Except Fault Call
  | fault, [] => .error fault
  | fault, directory :: rest =>
    match resolvePath disk here name (directory.child name) arguments with
    | .error .notFound | .error .notADirectory => search disk here name arguments fault rest
    | .error .permissionDenied => search disk here name arguments .permissionDenied rest
    | result => result

/-- The program that a name means, with a slash in it or without. -/
def find (disk : Disk) (here : Location) (program : String) (arguments : List String) :
    Except Fault Call :=
  if '\x00' ∈ program.toList ∨ arguments.any (·.toList.contains '\x00') then
    .error .nulInArgument
  else if '/' ∈ program.toList then
    resolvePath disk here program ⟨program⟩ arguments
  else if program = "" then .error .notFound
  else if Disk.nameLimit < program.utf8ByteSize then .error .nameTooLong
  else search disk here program arguments .notFound searched

/-- The letters that the shell takes as options. -/
def shellOptions : List Char :=
  ['a', 'b', 'e', 'f', 'i', 'I', 'l', 'm', 'n', 's', 'u', 'v', 'x', 'E', 'V']

/-- The options in front of the arguments of the shell, and what is left. -/
def shellArguments : List String → Except Char (List Char × List String)
  | [] => .ok ([], [])
  | argument :: rest =>
    match argument.toList with
    | '-' :: [] | '-' :: '-' :: [] => .ok ([], rest)
    | '-' :: letters =>
      match letters.find? fun letter => letter ∉ shellOptions with
      | some letter => .error letter
      | none => (shellArguments rest).map fun (more, left) => (letters ++ more, left)
    | _ => .ok ([], argument :: rest)

/-- Runs the shell. Without a script it reads nothing and ends well. -/
def runShell (spawn : Spawn) (disk : Disk) (here : Location) (name : String)
    (arguments : List String) : Report :=
  let refuse (complaint : String) : Report :=
    ⟨.exited 2, disk, ⟨"", name ++ ": 0: " ++ complaint ++ "\n"⟩⟩
  match shellArguments arguments with
  | .error letter => refuse ("Illegal option -" ++ String.singleton letter)
  | .ok (_, []) => ⟨.exited 0, disk, {}⟩
  | .ok (options, script :: arguments) =>
    match disk.read here ⟨script⟩ with
    | .error fault => refuse (Shell.openingFault false ⟨script⟩ fault)
    | .ok content =>
      if 'n' ∈ options then ⟨.exited 0, disk, {}⟩
      else runScript spawn disk here ('e' ∈ options) script (textOf content.data.toList) arguments

/-- What a program says that does not know an option. -/
def unknownOption (name : String) (arguments : List String) : String :=
  match arguments.find? fun argument => argument.toList.take 2 = ['-', '-'] with
  | some option =>
    name ++ ": unrecognized option '" ++ option ++ "'\nTry '" ++ name
      ++ " --help' for more information.\n"
  | none => ""

/-- Runs a program in a directory. Scripts may run programs in turn, so many deep. -/
def runNested : Nat → Spawn
  | depth, disk, here, program, arguments =>
    match find disk here program arguments with
    | .error fault => .notStarted disk fault
    | .ok call =>
      match call.native, depth with
      | .exits status, _ => ⟨.exited status.toNat, disk, {}⟩
      | .refuses status, _ =>
        ⟨.exited status.toNat, disk, ⟨"", unknownOption call.name call.arguments⟩⟩
      | .echo, _ => ⟨.exited 0, disk, ⟨String.intercalate " " call.arguments ++ "\n", ""⟩⟩
      | .shell, 0 => .notStarted disk .tryAgain
      | .shell, depth + 1 => runShell (runNested depth) disk here call.name call.arguments

/-- How deep scripts may run one another. -/
def nestingLimit : Nat := 16

/-- Runs a program in a directory. -/
def run : Spawn := runNested nestingLimit

end ModelForge.Process
