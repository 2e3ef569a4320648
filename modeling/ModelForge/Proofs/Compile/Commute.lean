import ModelForge.Proofs.Compile.Beside
import ModelForge.Proofs.Compile.Recompile

/-! Two models compiled in either order. With different directories below one output path, neither
finds out about the other, and what is left in the end is the same. -/
namespace ModelForge.Compile

open Disk

variable {here : Location} {output : Path} {disk one : Disk} {a b : Job}

instance (here away : Location) (settings : Settings) :
    Decidable (DefinedApart here away settings) :=
  decidable_of_iff _ forall_definition_iff.symm

theorem OutputThere.rooted (there : OutputThere here output disk) (free : disk.LinkFree)
    (inside : disk.entryAt here = some .directory) : Rooted here output disk := by
  rcases there with empty | directory
  · exact rooted_of_isEmpty empty inside
  · have site := site_of_isDirectory free inside directory
    exact ⟨site.reaches, site.standing, ensureDirectory_of_isDirectory directory⟩

theorem OutputThere.run (there : OutputThere here output disk) (job : Job)
    (inward : job.model.Inward) (free : disk.LinkFree)
    (inside : disk.entryAt here = some .directory) :
    OutputThere here output (job.run here disk).2.disk := by
  refine there.imp_right fun directory => ?_
  obtain ⟨middle, adds, changes⟩ := compile_changes inward free (Prod.eta (job.run here disk)).symm
  exact (site_of_isDirectory free inside directory).isDirectory_keeps
    ((adds.keeps here).trans (changes.keeps ((adds.keeps here).directory _ inside)))

/-- Once the output directory is there, a job changes nothing but its own directory. -/
theorem Job.run_sameBut (job : Job) (unslashed : job.model.Unslashed) (free : disk.LinkFree)
    (rooted : Rooted here job.settings.outputPath disk) :
    Disk.SameBut (job.root here) disk (job.run here disk).2.disk := fun location off =>
  compile_confined unslashed.identity unslashed.inward free rooted
    (Prod.eta (job.run here disk)).symm location off

/-- What two jobs ask of the disk that they find: places to work in that have nothing to do with
each other, below one output path, and definitions in neither of them. -/
structure Job.Apart (here : Location) (a b : Job) : Prop where
  settings : b.settings = a.settings
  accepted : a.model.validate = .ok ()
  accepted' : b.model.validate = .ok ()
  unslashed : a.model.Unslashed
  unslashed' : b.model.Unslashed
  differ : a.model.safeName ≠ b.model.safeName
  defined : DefinedApart here (a.root here) a.settings
  defined' : DefinedApart here (b.root here) a.settings

theorem Job.Apart.symm (apart : a.Apart here b) : b.Apart here a where
  settings := apart.settings.symm
  accepted := apart.accepted'
  accepted' := apart.accepted
  unslashed := apart.unslashed'
  unslashed' := apart.unslashed
  differ := apart.differ.symm
  defined := apart.settings ▸ apart.defined'
  defined' := apart.settings ▸ apart.defined

theorem Job.Apart.roots (apart : a.Apart here b) (location : Location)
    (below : b.root here <:+ location) : ¬a.root here <:+ location := fun above => by
  rw [Job.root, apart.settings] at below
  exact directories_apart apart.unslashed.identity apart.unslashed'.identity apart.differ above below

/-- A job does not notice that another one has been run before it, once the output directory is
there. -/
theorem Job.Apart.run_alike (apart : a.Apart here b) (free : disk.LinkFree)
    (inside : disk.entryAt here = some .directory)
    (there : OutputThere here a.settings.outputPath disk) :
    EndAlike (a.root here) (b.run here disk) (b.run here (a.run here disk).2.disk) := by
  have rooted := there.rooted free inside
  have free' : (a.run here disk).2.disk.LinkFree := a.linkFree apart.unslashed.inward free
  have inside' : (a.run here disk).2.disk.entryAt here = some .directory :=
    a.directory apart.unslashed.inward free inside
  have rooted' := (there.run a apart.unslashed.inward free inside).rooted free' inside'
  have same := a.run_sameBut apart.unslashed free rooted
  rw [← apart.settings] at rooted rooted'
  exact compile_alike b.failBindings b.failBuild apart.unslashed' apart.roots
    (apart.settings ▸ apart.defined) same free free' inside inside' rooted rooted'

theorem Job.Apart.commute_there (apart : a.Apart here b) (free : disk.LinkFree)
    (inside : disk.entryAt here = some .directory)
    (there : OutputThere here a.settings.outputPath disk) :
    after here [a, b] disk = after here [b, a] disk := by
  have alikeB := (apart.run_alike free inside there).2.disk
  have alikeA := (apart.symm.run_alike free inside (apart.settings ▸ there)).2.disk
  have confined : ∀ {a b : Job}, a.Apart here b → OutputThere here a.settings.outputPath disk →
      Disk.SameBut (b.root here) (a.run here disk).2.disk
        (b.run here (a.run here disk).2.disk).2.disk := by
    intro a b apart there
    have free' : (a.run here disk).2.disk.LinkFree := a.linkFree apart.unslashed.inward free
    refine b.run_sameBut apart.unslashed' free' ?_
    rw [apart.settings]
    exact (there.run a apart.unslashed.inward free inside).rooted free'
      (a.directory apart.unslashed.inward free inside)
  apply ext_entryAt
  intro location
  change (b.run here (a.run here disk).2.disk).2.disk.entryAt location =
    (a.run here (b.run here disk).2.disk).2.disk.entryAt location
  by_cases below : b.root here <:+ location
  · have off := apart.roots location below
    rw [alikeB location off, confined apart.symm (apart.settings ▸ there) location off]
  · rw [confined apart there location below, alikeA location below]

/-- The output directory is made by whichever comes first. -/
theorem Job.run_rooted (job : Job) (accepted : job.model.validate = .ok ())
    (root : disk.ensureDirectory here job.settings.outputPath = (.ok (), one)) :
    job.run here disk = job.run here one := by
  have again := ensured_again (output_there root)
  unfold Job.run
  rcases directory : one.ensureDirectory here (job.model.directory job.settings.outputPath) with
    ⟨fault | ⟨⟩, two⟩
  · rw [compile_noDirectory accepted root directory, compile_noDirectory accepted again directory]
  · rw [compile_eq_stages accepted root directory, compile_eq_stages accepted again directory]

theorem Job.run_noRoot (job : Job) {fault : Fault} (accepted : job.model.validate = .ok ())
    (root : disk.ensureDirectory here job.settings.outputPath = (.error fault, one)) :
    job.run here disk =
      (.error (.io .ensureOutputRoot job.settings.outputPath fault), ⟨one, [], {}⟩) :=
  compile_noRoot accepted root

/-- A job that comes second may be given another reason than the one that comes first. -/
theorem Job.Apart.differ_of_reasons {fault fault' : Fault} (apart : a.Apart here b)
    (first : (disk.ensureDirectory here a.settings.outputPath).1 = .error fault)
    (second : ((disk.ensureDirectory here a.settings.outputPath).2.ensureDirectory here
      a.settings.outputPath).1 = .error fault') (differ : fault ≠ fault') :
    (b.run here (after here [a] disk)).1 ≠ (b.run here disk).1 := by
  rw [after_cons, after_nil, a.run_noRoot apart.accepted (Prod.ext first rfl)]
  rw [← apart.settings] at first second ⊢
  rw [b.run_noRoot apart.accepted' (Prod.ext first rfl),
    b.run_noRoot apart.accepted' (Prod.ext second rfl)]
  intro same
  injection same with same
  injection same with _ _ same
  exact differ same.symm

/-- Two runs ask for the same, print the same and have one result; unless the output directory
cannot be made, which both then report, each with the reason that it was given. -/
structure ShowAlike (output : Path) (x y : Except Error Artifact × Progress) : Prop where
  requests : y.2.requests = x.2.requests
  printed : y.2.printed = x.2.printed
  result : y.1 = x.1 ∨ ∃ fault fault', x.1 = .error (.io .ensureOutputRoot output fault) ∧
    y.1 = .error (.io .ensureOutputRoot output fault')

/-- A job beside the sample, whose build fails. -/
def neighbourJob : Job := ⟨⟨"n", "1", []⟩, sampleSettings "o", false, true⟩

/-- A job whose output path leads over a directory that is not there, back, and through a file. -/
def detourJob (name : String) : Job := ⟨⟨name, "1", []⟩, sampleSettings "a/../f/x", false, false⟩

def detourDisk : Disk :=
  (sampleDisk Source.Kind.all).put "f" ["w"] (.file "x".toUTF8 false)

end ModelForge.Compile
