import ModelForge.Compile.Error
import ModelForge.Process.Launch

/-! The two outside tools that a compilation asks for help: one that turns schema files into
code, and one that builds a library from the generated tree. A toolchain may do anything to the
disk. -/
namespace ModelForge.Compile

/-- A generated tree and the name of the library to be built from it. -/
structure SourceTree where
  root : Path
  libraryName : String
deriving DecidableEq, Repr

/-- What a tool is asked to do. Schema files and the output file are named from the root of the
tree. -/
inductive Request where
  | bindings (tree : SourceTree) (schemaFiles : List Path) (outputFile : Path) (package : String)
  | build (tree : SourceTree) (artifact : Path) (mode : Mode)
deriving DecidableEq, Repr

/-- What is there after a request: the disk, and what the tools have printed. -/
structure Answer where
  result : Except Error Unit
  disk : Disk
  printed : Process.Printed := {}

/-- What the tools do with a request, seen from a working directory. -/
structure Toolchain where
  perform : Location → Request → Disk → Answer

namespace Toolchain

/-- Writes what a tool has produced. -/
def produce (here : Location) (step : Step) (path : Path) (content : String) (disk : Disk) :
    Answer :=
  match disk.write here path content.toUTF8 with
  | .ok disk => { result := .ok (), disk }
  | .error fault => { result := .error (.io step path fault), disk }

/-- A toolchain that writes fixed texts, or fails on demand without touching the disk. -/
def standIn (failBindings failBuild : Bool) : Toolchain where
  perform here request disk :=
    let refuse (step : Step) (program reason : String) : Answer :=
      { result := .error (.externalProcess step program reason), disk }
    match request with
    | .bindings tree _ outputFile _ =>
      if failBindings then refuse .generateBindings "fake-bindgen" "exited with exit status: 1"
      else
        produce here .generateBindings (tree.root.join outputFile) "pub struct Device;\n" disk
    | .build _ artifact _ =>
      if failBuild then refuse .build "fake-cargo" "exited with exit status: 101"
      else produce here .build artifact "fake artifact" disk

/-- The file in which the build tool leaves a library. -/
def builtLibrary (tree : SourceTree) : Path :=
  ((tree.root.child "target").child "release").child ("lib" ++ tree.libraryName ++ ".so")

def bindingArguments (schemaFiles : List Path) (outputFile : Path) (package : String) :
    List String :=
  ["--path=yang", "--output_file=" ++ outputFile.text, "--package_name=" ++ package,
    "--generate_fakeroot"] ++ schemaFiles.map Path.text

def buildArguments : List String :=
  ["build", "--release", "--lib", "--manifest-path", "Cargo.toml", "--target-dir", "target"]

/-- Runs a program in the root of a tree. -/
def spawn (here : Location) (step : Step) (program : String) (arguments : List String)
    (tree : SourceTree) (disk : Disk) : Answer :=
  let report : Process.Report := match disk.locate here tree.root with
    | .error fault => .notStarted disk fault
    | .ok root =>
      if disk.found root = .directory then Process.run disk root program arguments
      else .notStarted disk .notADirectory
  { result := match report.outcome.complaint? with
      | none => .ok ()
      | some reason => .error (.externalProcess step program reason)
    disk := report.disk
    printed := report.printed }

/-- The binding generator that is used when no other is named. -/
def defaultBindingGenerator : String := "yang-bindgen"

/-- Runs two programs. The library that the build leaves is copied to the artifact. -/
def programs (bindingGenerator builder : String) : Toolchain where
  perform here request disk :=
    match request with
    | .bindings tree schemaFiles outputFile package =>
      spawn here .generateBindings bindingGenerator
        (bindingArguments schemaFiles outputFile package) tree disk
    | .build tree artifact _ =>
      let answer := spawn here .build builder buildArguments tree disk
      match answer.result with
      | .error _ => answer
      | .ok () =>
        let built := builtLibrary tree
        match answer.disk.copy here built artifact with
        | .ok disk => { answer with disk }
        | .error fault => { answer with result := .error (.io .build built fault) }

end Toolchain

end ModelForge.Compile
