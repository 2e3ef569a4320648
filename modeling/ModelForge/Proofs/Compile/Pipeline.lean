import ModelForge.Proofs.Compile.Run

/-! Whole compilations. Two directories are made first, then the stages run in the directory of
the model. Where there are no links that directory lies where its path says. -/
namespace ModelForge.Compile

open Disk

variable {here : Location} {settings : Settings} {model : Model} {toolchain : Toolchain}
  {disk : Disk}

theorem compile_noRoot {fault : Fault} {one : Disk} (accepted : model.validate = .ok ())
    (root : disk.ensureDirectory here settings.outputPath = (.error fault, one)) :
    compile here settings toolchain model disk =
      (.error (.io .ensureOutputRoot settings.outputPath fault), ⟨one, [], {}⟩) := by
  simp only [compile, accepted, steps_eq, Run.run_bind, Run.run_ensure, root, Except.mapError]

theorem compile_noDirectory {fault : Fault} {one two : Disk} (accepted : model.validate = .ok ())
    (root : disk.ensureDirectory here settings.outputPath = (.ok (), one))
    (directory : one.ensureDirectory here (model.directory settings.outputPath) =
      (.error fault, two)) :
    compile here settings toolchain model disk =
      (.error (.io .ensureModuleDirectory (model.directory settings.outputPath) fault),
        ⟨two, [], {}⟩) := by
  simp only [compile, accepted, steps_eq, Run.run_bind, Run.run_ensure, root, directory,
    Except.mapError]

/-- The first two steps, and then the stages. -/
theorem compile_eq_stages {one two : Disk} (accepted : model.validate = .ok ())
    (root : disk.ensureDirectory here settings.outputPath = (.ok (), one))
    (directory : one.ensureDirectory here (model.directory settings.outputPath) = (.ok (), two)) :
    compile here settings toolchain model disk =
      Prod.map (·.map fun _ => artifact settings model) id
        ((Stage.runAll here settings model toolchain Stage.all).run.run ⟨two, [], {}⟩) := by
  unfold compile
  rw [accepted]
  simp only [steps_eq, Run.run_bind, Run.run_ensure, root, Except.mapError, directory]
  rcases (Stage.runAll here settings model toolchain Stage.all).run.run ⟨two, [], {}⟩ with
    ⟨_ | ⟨⟩, final⟩ <;> rfl

/-- How a compilation can go. -/
inductive Course (here : Location) (settings : Settings) (toolchain : Toolchain) (model : Model)
    (disk : Disk) : Except Error Artifact → Progress → Prop where
  | refused (cause : DescriptorError) :
    Course here settings toolchain model disk (.error (.descriptor cause)) ⟨disk, [], {}⟩
  | noRoot {fault : Fault} {one : Disk}
    (root : disk.ensureDirectory here settings.outputPath = (.error fault, one)) :
    Course here settings toolchain model disk
      (.error (.io .ensureOutputRoot settings.outputPath fault)) ⟨one, [], {}⟩
  | noDirectory {fault : Fault} {one two : Disk}
    (root : disk.ensureDirectory here settings.outputPath = (.ok (), one))
    (directory : one.ensureDirectory here (model.directory settings.outputPath) =
      (.error fault, two)) :
    Course here settings toolchain model disk
      (.error (.io .ensureModuleDirectory (model.directory settings.outputPath) fault))
      ⟨two, [], {}⟩
  | ran {one two : Disk} {result : Except Error Unit} {final : Progress}
    (root : disk.ensureDirectory here settings.outputPath = (.ok (), one))
    (directory : one.ensureDirectory here (model.directory settings.outputPath) = (.ok (), two))
    (stages : (Stage.runAll here settings model toolchain Stage.all).run.run ⟨two, [], {}⟩ =
      (result, final)) :
    Course here settings toolchain model disk (result.map fun _ => artifact settings model) final

theorem compile_course {result : Except Error Artifact} {final : Progress}
    (compiled : compile here settings toolchain model disk = (result, final)) :
    Course here settings toolchain model disk result final := by
  unfold compile at compiled
  split at compiled
  · cases compiled
    exact .refused _
  rw [steps_eq, Run.run_bind, Run.run_ensure] at compiled
  rcases root : disk.ensureDirectory here settings.outputPath with ⟨_ | _, one⟩
  · rw [root] at compiled
    cases compiled
    exact .noRoot root
  simp only [root, Except.mapError, Run.run_bind, Run.run_ensure] at compiled
  rcases directory : one.ensureDirectory here (model.directory settings.outputPath) with
    ⟨_ | _, two⟩
  · simp only [directory] at compiled
    cases compiled
    exact .noDirectory root directory
  simp only [directory] at compiled
  rcases stages : (Stage.runAll here settings model toolchain Stage.all).run.run ⟨two, [], {}⟩ with
    ⟨_ | _, last⟩
  all_goals
    simp only [stages] at compiled
    cases compiled
    exact .ran root directory stages

/-- A process that does not stand in a directory comes no further than the first stage. -/
theorem runAll_outside (outside : disk.entryAt here ≠ some .directory) :
    (Stage.runAll here settings model toolchain Stage.all).run.run ⟨disk, [], {}⟩ =
      (.error (.io .generateManifest ⟨"."⟩ .notFound), ⟨disk, [], {}⟩) := by
  rw [Stage.all, Stage.runAll, Run.run_bind, Stage.run, generate, Run.run_onDisk]
  simp [outside, Step.ofKind]

/-- How the stages end, when they are run in the directory of the model. -/
theorem stages_end {failBindings failBuild : Bool} {final : Progress}
    {result : Except Error Unit} {root : Location} (unslashed : model.Unslashed)
    (plain : Plain root model Stage.all disk)
    (site : disk.entryAt here = some .directory →
      disk.Site here (model.directory settings.outputPath) root)
    (ran : (Stage.runAll here settings model (.standIn failBindings failBuild)
      Stage.all).run.run ⟨disk, [], {}⟩ = (result, final)) :
    (result = .ok () ∧
      Reached here root settings model Stage.all (fun _ => False) disk final.disk ∧
      final.requests = [bindingRequest settings model, buildRequest settings model]) ∨
    ∃ done failing rest error, Stage.all = done ++ failing :: rest ∧ result = .error error ∧
      error.step? = some failing.step ∧
      Reached here root settings model done (failing.Residue root model) disk final.disk ∧
      final.requests = (done ++ [failing]).flatMap (Stage.requests settings model) := by
  by_cases inside : disk.entryAt here = some .directory
  · rcases runAll_ends unslashed Stage.all (by decide) [[]] Stage.placed_all inside
      (by simpa [Path.within] using site inside) plain ran with
      ⟨ok, reached, requests⟩ | ⟨done, failing, rest, error, shape, eq, step, reached, requests⟩
    · exact .inl ⟨ok, reached, requests⟩
    · exact .inr ⟨done, failing, rest, error, shape, eq, step, reached, by simpa using requests⟩
  · rw [runAll_outside inside] at ran
    cases ran
    exact .inr ⟨[], .source .manifest, _, _, rfl, rfl, rfl, ⟨.refl _ _, by simp⟩, rfl⟩

/-- A disk with the working directory `/w` and, in `/t`, definitions of one letter. -/
def sampleDisk (definitions : List Source.Kind) : Disk :=
  definitions.foldl (fun disk kind => disk.put kind.definitionFile ["t"] (.file "x".toUTF8 false))
    ((Disk.empty.put "t" [] .directory).put "w" [] .directory)

def sampleSettings (output : String) : Settings :=
  { templatePath := ⟨"/t"⟩, outputPath := ⟨output⟩, copyPolicy := .overwrite }

def sampleModel : Model := ⟨"m", "1", [⟨"a", "1", none, "A".toUTF8⟩]⟩

/-- A compilation in `/w`, with tools that do not fail. -/
def sampleRun (output : String) (model : Model) (disk : Disk) :
    Except Error Artifact × Progress :=
  compile ["w"] (sampleSettings output) (.standIn false false) model disk

/-- What an outcome says without the details of an error. -/
def summary (result : Except Error Artifact) : Except (Option Step) Artifact :=
  result.mapError Error.step?

/-- A run is told by its outcome and what it leaves. -/
theorem ran_of_summary {ran : Except Error Artifact × Progress} {made : Artifact}
    (ended : summary ran.1 = .ok made) : ran = (.ok made, ran.2) := by
  obtain ⟨error | ok, final⟩ := ran
  · cases ended
  · cases ended
    rfl

theorem error_of_summary {result : Except Error Artifact} {failed : Option Step}
    (ended : summary result = .error failed) :
    ∃ error, result = .error error ∧ error.step? = failed := by
  cases result with
  | error error => exact ⟨error, rfl, Except.error.inj ended⟩
  | ok => cases ended

set_option maxRecDepth 10000 in
theorem sampleRun_summary : summary (sampleRun "o" sampleModel (sampleDisk Source.Kind.all)).1 =
    .ok ⟨"m", "1", ⟨"o/m_1/m.so.1"⟩⟩ := by
  decide +kernel

end ModelForge.Compile
