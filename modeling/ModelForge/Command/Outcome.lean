import ModelForge.Command.Arguments
import ModelForge.Compile.Error
import ModelForge.Repository.Error

/-! What a command leaves on the screen. A failure is reported with everything that caused it,
the nearest cause first. -/
namespace ModelForge.Command

/-- What went wrong, and why. -/
structure Failure where
  message : String
  causes : List String
deriving DecidableEq, Repr

namespace Failure

/-- A failure in terms of what was to be done, with the error that kept it from being done. -/
def ofCompile (attempt : String) (error : Compile.Error) : Failure :=
  ⟨attempt, error.message :: error.causes⟩

def ofRepository (attempt : String) (error : Repository.Error) : Failure :=
  ⟨attempt, error.message :: error.causes⟩

def ofFault (attempt : String) (fault : Fault) : Failure := ⟨attempt, [fault.message]⟩

/-- The lines of a cause: a number in front of the first, the others indented as far. -/
def indented (number : Option Nat) (cause : String) : List String :=
  let (first, others) := match number with
    | none => ("    ", "    ")
    | some n =>
      let digits := toString n
      (String.ofList (List.replicate (5 - digits.length) ' ') ++ digits ++ ": ", "       ")
  match Text.fields '\n' cause.toList with
  | [] => []
  | line :: more =>
    (first ++ String.ofList line) :: more.map fun line => others ++ String.ofList line

/-- A single cause is not numbered. -/
def report (failure : Failure) : String :=
  let causes := match failure.causes with
    | [] => []
    | [only] => "" :: "Caused by:" :: indented none only
    | many => "" :: "Caused by:" :: (many.zipIdx.flatMap fun (cause, n) => indented (some n) cause)
  String.intercalate "\n" (("Error: " ++ failure.message) :: causes)

end Failure

/-- The exit status and what was printed. -/
structure Outcome where
  status : Nat
  output : String
  complaint : String
deriving DecidableEq, Repr

namespace Outcome

def printed (lines : List String) : Outcome :=
  ⟨0, String.join (lines.map (· ++ "\n")), ""⟩

def failed (failure : Failure) : Outcome := ⟨1, "", failure.report ++ "\n"⟩

/-- What other programs have printed comes first. -/
def after (outcome : Outcome) (before : Process.Printed) : Outcome :=
  { outcome with
    output := before.output ++ outcome.output
    complaint := before.complaint ++ outcome.complaint }

def misused (misuse : Misuse) : Outcome := ⟨2, "", misuse.report⟩

end Outcome

end ModelForge.Command
