import ModelForge.Disk.Basic
import ModelForge.Disk.Fault

/-! How a program that was run ends, what it leaves behind, and how its end is reported. -/
namespace ModelForge.Process

inductive Outcome where
  | notStarted (fault : Fault)
  | exited (status : Nat)
  | killed (signal : Nat)
deriving DecidableEq, Repr

/-- The signals that end a program, with their usual numbers. -/
def signalNames : List (Nat × String) := [
  (1, "HUP"), (2, "INT"), (3, "QUIT"), (4, "ILL"), (5, "TRAP"), (6, "ABRT"), (7, "BUS"),
  (8, "FPE"), (9, "KILL"), (10, "USR1"), (11, "SEGV"), (12, "USR2"), (13, "PIPE"), (14, "ALRM"),
  (15, "TERM"), (16, "STKFLT"), (24, "XCPU"), (25, "XFSZ"), (26, "VTALRM"), (27, "PROF"),
  (29, "IO"), (30, "PWR"), (31, "SYS")]

namespace Outcome

/-- What is said of a program that did not end well; nothing of one that did. -/
def complaint? : Outcome → Option String
  | notStarted fault => some ("could not be started: " ++ fault.message)
  | exited 0 => none
  | exited status => some s!"exited with exit status: {status}"
  | killed signal =>
    let name := match signalNames.lookup signal with
      | some name => s!" (SIG{name})"
      | none => ""
    some (s!"exited with signal: {signal}" ++ name)

end Outcome

/-- What programs have written for their reader: their output, and their complaints. -/
structure Printed where
  output : String := ""
  complaint : String := ""
deriving DecidableEq, Inhabited, Repr

instance : Append Printed where
  append first second := ⟨first.output ++ second.output, first.complaint ++ second.complaint⟩

/-- A program that has ended. -/
structure Report where
  outcome : Outcome
  disk : Disk
  printed : Printed

/-- A program that could not be run has changed nothing. -/
def Report.notStarted (disk : Disk) (fault : Fault) : Report := ⟨.notStarted fault, disk, {}⟩

end ModelForge.Process
