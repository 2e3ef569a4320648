import ModelForge.Proofs.Compile.Containment

/-! Compilations one after the other. Each finds what the ones before it have left, whether they
succeeded or not. -/
namespace ModelForge.Compile

open Disk

/-- A compilation with tools that fail on demand. -/
structure Job where
  model : Model
  settings : Settings
  failBindings : Bool := false
  failBuild : Bool := false

def Job.run (here : Location) (job : Job) (disk : Disk) : Except Error Artifact × Progress :=
  compile here job.settings (.standIn job.failBindings job.failBuild) job.model disk

/-- What is left after some compilations. -/
def after (here : Location) (jobs : List Job) (disk : Disk) : Disk :=
  jobs.foldl (fun disk job => (job.run here disk).2.disk) disk

variable {here : Location} {settings : Settings} {model : Model} {toolchain : Toolchain}
  {disk one two : Disk} {final : Progress}

@[simp] theorem after_nil (here : Location) (disk : Disk) : after here [] disk = disk := rfl

@[simp] theorem after_cons (here : Location) (job : Job) (jobs : List Job) (disk : Disk) :
    after here (job :: jobs) disk = after here jobs (job.run here disk).2.disk := rfl

theorem after_append (here : Location) (earlier later : List Job) (disk : Disk) :
    after here (earlier ++ later) disk = after here later (after here earlier disk) :=
  List.foldl_append

/-- What every compilation keeps is kept by all of them. -/
theorem after_induct (Good : Disk → Prop) (jobs : List Job)
    (step : ∀ job ∈ jobs, ∀ disk, Good disk → Good (job.run here disk).2.disk)
    (disk : Disk) (good : Good disk) : Good (after here jobs disk) := by
  induction jobs generalizing disk with
  | nil => exact good
  | cons job rest ih =>
    exact ih (fun other member => step other (List.mem_cons_of_mem _ member)) _
      (step job List.mem_cons_self disk good)

theorem Job.linkFree (job : Job) (inward : job.model.Inward) (free : disk.LinkFree) :
    (job.run here disk).2.disk.LinkFree := by
  obtain ⟨middle, adds, changes⟩ := compile_changes inward free (Prod.eta (job.run here disk)).symm
  exact changes.linkFree (adds.linkFree free)

theorem Job.directory (job : Job) (inward : job.model.Inward) (free : disk.LinkFree)
    {location : Location} (found : disk.entryAt location = some .directory) :
    (job.run here disk).2.disk.entryAt location = some .directory := by
  obtain ⟨middle, adds, changes⟩ := compile_changes inward free (Prod.eta (job.run here disk)).symm
  exact changes.directory _ ((adds.keeps here).directory _ found)

theorem accepted_of_compile {made : Artifact}
    (compiled : compile here settings toolchain model disk = (.ok made, final)) :
    model.validate = .ok () := by
  unfold compile at compiled
  split at compiled
  · cases compiled
  · assumption

/-- The parts of a compilation that succeeds, put together. -/
theorem compile_of_stages (accepted : model.validate = .ok ())
    (root : disk.ensureDirectory here settings.outputPath = (.ok (), one))
    (directory : one.ensureDirectory here (model.directory settings.outputPath) = (.ok (), two))
    (stages : (Stage.runAll here settings model toolchain Stage.all).run.run ⟨two, [], {}⟩ =
      (.ok (), final)) :
    compile here settings toolchain model disk = (.ok (artifact settings model), final) := by
  rw [compile_eq_stages accepted root directory, stages]
  rfl

/-- How a compilation has gone that has succeeded. -/
theorem stages_of_compile {made : Artifact}
    (compiled : compile here settings toolchain model disk = (.ok made, final)) :
    made = artifact settings model ∧ ∃ one two,
      disk.ensureDirectory here settings.outputPath = (.ok (), one) ∧
      one.ensureDirectory here (model.directory settings.outputPath) = (.ok (), two) ∧
      (Stage.runAll here settings model toolchain Stage.all).run.run ⟨two, [], {}⟩ =
        (.ok (), final) := by
  generalize outcome : (Except.ok made : Except Error Artifact) = ended at compiled
  cases compile_course compiled with
  | refused | noRoot | noDirectory => cases outcome
  | @ran one two result _ root directory stages =>
    cases result with
    | error error => cases outcome
    | ok =>
      cases outcome
      exact ⟨rfl, one, two, root, directory, stages⟩

end ModelForge.Compile
