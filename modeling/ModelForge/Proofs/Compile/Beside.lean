import ModelForge.Proofs.Compile.Isolation
import ModelForge.Proofs.Compile.Lockstep
import ModelForge.Proofs.Disk.Beside

/-! A compilation beside the directory of another model. Two disks that are the same but for that
directory give it the same outcome, down to the reason of a failure, and stay the same but for that
directory. -/
namespace ModelForge.Compile

open Disk

/-- Two courses of which one knows a directory that the other does not. -/
structure Progress.SameBut (away : Location) (p q : Progress) : Prop where
  requests : q.requests = p.requests
  printed : q.printed = p.printed
  disk : Disk.SameBut away p.disk q.disk

/-- The ends of two runs: one outcome, and the same but for a directory. -/
def EndAlike {α : Type} (away : Location) (a b : α × Progress) : Prop :=
  b.1 = a.1 ∧ a.2.SameBut away b.2

/-- No path to a definition leads to a directory or through it. -/
def DefinedApart (here away : Location) (settings : Settings) : Prop :=
  ∀ (kind : Source.Kind) place,
    here.OnTheWay (kind.definitionPath settings.templatePath) place → ¬away <:+ place

variable {away here root : Location} {settings : Settings} {model : Model}
  {failBindings failBuild : Bool}

section Schemas

variable {a b : Disk} {base : Path} {name : String}

theorem discard_alike (same : Disk.SameBut away a b) (siteA : a.Site here base root)
    (siteB : b.Site here base root) (isName : Path.IsName name) (off : ¬away <:+ name :: root) :
    Disk.SameBut away (discard a here (base.child name)) (discard b here (base.child name)) := by
  unfold discard
  rcases (unlink_alike same siteA siteB isName off).ends with
    ⟨fault, failedA, failedB⟩ | ⟨a', b', unlinkedA, unlinkedB, same'⟩
  · rw [failedA, failedB]
    exact same
  · rw [unlinkedA, unlinkedB]
    exact same'

theorem writeSchema_alike (same : Disk.SameBut away a b) (siteA : a.Site here base root)
    (siteB : b.Site here base root) (isName : Path.IsName name)
    (off : ∀ name, ¬away <:+ name :: root) (policy : CopyPolicy) (data : ByteArray) :
    (writeSchema b here policy (base.child name) data).1 =
        (writeSchema a here policy (base.child name) data).1 ∧
      Disk.SameBut away (writeSchema a here policy (base.child name) data).2
        (writeSchema b here policy (base.child name) data).2 := by
  have isStaged := isName_stagedName isName.unslashed
  have written := write_alike same siteA siteB isStaged (off _) data
  unfold writeSchema
  rw [pathExists_alike same siteA siteB isName (off _), stagingPath_child base isName.nonempty]
  by_cases skips : policy = .skipExisting ∧ a.pathExists here (base.child name) = true
  · rw [if_pos skips, if_pos skips]
    exact ⟨rfl, same⟩
  rw [if_neg skips, if_neg skips]
  dsimp only
  rcases written.ends with ⟨fault, failedA, failedB⟩ | ⟨a', b', wroteA, wroteB, staged⟩
  · rw [failedA, failedB]
    exact ⟨rfl, same⟩
  rw [wroteA, wroteB]
  have siteA := siteA.changes (siteA.write_changes isStaged wroteA).1
  have siteB := siteB.changes (siteB.write_changes isStaged wroteB).1
  dsimp only
  rcases (rename_alike staged siteA siteB isStaged isName (off _) (off _)).ends with
    ⟨fault, failedA, failedB⟩ | ⟨a'', b'', renamedA, renamedB, same'⟩
  · rw [failedA, failedB]
    exact ⟨rfl, discard_alike staged siteA siteB isStaged (off _)⟩
  · rw [renamedA, renamedB]
    exact ⟨rfl, same'⟩

theorem copyModules_alike (modules : List SchemaModule)
    (unslashed : ∀ m ∈ modules, m.identity.Unslashed) {p q : Progress} (same : p.SameBut away q)
    (siteP : p.disk.Site here (model.schemaDirectory settings.outputPath) root)
    (siteQ : q.disk.Site here (model.schemaDirectory settings.outputPath) root)
    (off : ∀ name, ¬away <:+ name :: root) :
    EndAlike away ((copyModules here settings model modules).run.run p)
      ((copyModules here settings model modules).run.run q) := by
  induction modules generalizing p q with
  | nil => exact ⟨rfl, same⟩
  | cons m rest ih =>
    have isName := SchemaModule.isName_fileName (unslashed m List.mem_cons_self)
    obtain ⟨outcomes, disks⟩ := writeSchema_alike same.disk siteP siteQ isName off
      settings.copyPolicy m.data
    rw [run_copyModules_cons, run_copyModules_cons, Model.schemaFile]
    rcases wroteP : writeSchema p.disk here settings.copyPolicy
      ((model.schemaDirectory settings.outputPath).child m.fileName) m.data with ⟨outcome, p'⟩
    rcases wroteQ : writeSchema q.disk here settings.copyPolicy
      ((model.schemaDirectory settings.outputPath).child m.fileName) m.data with ⟨outcome', q'⟩
    rw [wroteP, wroteQ] at outcomes disks
    obtain rfl : outcome' = outcome := outcomes
    have same' : Progress.SameBut away { p with disk := p' } { q with disk := q' } :=
      ⟨same.requests, same.printed, disks⟩
    cases outcome' with
    | error error => exact ⟨rfl, same'⟩
    | ok outcome =>
      exact ih (fun other member => unslashed other (List.mem_cons_of_mem _ member)) same'
        (siteP.changes (writeSchema_changes siteP isName wroteP))
        (siteQ.changes (writeSchema_changes siteQ isName wroteQ))

end Schemas

variable {p q : Progress} {stage : Stage}

/-- The texts of the definitions are the same, for the paths to them keep off the directory. -/
theorem Stage.text_alike {a b : Disk} (stage : Stage) (model : Model)
    (failBindings failBuild : Bool) (free : a.LinkFree) (same : Disk.SameBut away a b)
    (standing : b.entryAt here = a.entryAt here) (defined : DefinedApart here away settings) :
    stage.text here settings model failBindings failBuild b =
      stage.text here settings model failBindings failBuild a := by
  cases stage with
  | source kind =>
    simp only [Stage.text]
    rw [Source.renderText_agree _ ⟨standing, fun place way => same place
      (defined kind place way)⟩ free]
  | _ => rfl

theorem Stage.run_alike (failBindings failBuild : Bool) (unslashed : model.Unslashed)
    (apart : ∀ location, root <:+ location → ¬away <:+ location)
    (defined : DefinedApart here away settings) (same : p.SameBut away q)
    (free : p.disk.LinkFree) (free' : q.disk.LinkFree)
    (siteP : p.disk.Site here (stage.base settings model) (stage.within.reverse ++ root))
    (siteQ : q.disk.Site here (stage.base settings model) (stage.within.reverse ++ root)) :
    EndAlike away
      ((stage.run here settings model (.standIn failBindings failBuild)).run.run p)
      ((stage.run here settings model (.standIn failBindings failBuild)).run.run q) := by
  have off : ∀ name, ¬away <:+ name :: (stage.within.reverse ++ root) := fun name =>
    apart _ (List.suffix_append (name :: stage.within.reverse) root)
  by_cases isFolder : ∃ f, stage = folder f
  · obtain ⟨f, rfl⟩ := isFolder
    obtain ⟨outcomes, disks⟩ := ensureDirectory_alike same.disk f.isName (off f.name) siteP.reaches
      siteQ.reaches siteP.standing free free'
    rw [Stage.run, Run.run_ensure, Run.run_ensure]
    exact ⟨congrArg (Except.mapError (Error.io f.step _)) outcomes, same.requests, same.printed,
      disks⟩
  cases named : stage.name? model with
  | none =>
    obtain rfl : stage = schemas := by cases stage <;> cases named; rfl
    rw [Stage.base_schemas] at siteP siteQ
    exact copyModules_alike model.modules unslashed.modules same siteP siteQ off
  | some name =>
    have notFolder : ∀ f, stage ≠ folder f := fun f eq => isFolder ⟨f, eq⟩
    have texts := stage.text_alike model failBindings failBuild free same.disk
      (siteQ.inside.trans siteP.inside.symm) defined
    have requests : q.requests ++ stage.requests settings model =
        p.requests ++ stage.requests settings model := by rw [same.requests]
    rw [Stage.run_file named notFolder siteP.inside, Stage.run_file named notFolder siteQ.inside,
      texts]
    cases stage.text here settings model failBindings failBuild p.disk with
    | error error => exact ⟨rfl, requests, same.printed, same.disk⟩
    | ok text =>
      have written := write_alike same.disk siteP siteQ (Stage.isName_name unslashed.identity named)
        (off name) text.toUTF8
      dsimp only
      rcases written.ends with ⟨fault, failedP, failedQ⟩ | ⟨a, b, wroteP, wroteQ, same'⟩
      · rw [failedP, failedQ]
        exact ⟨rfl, requests, same.printed, same.disk⟩
      · rw [wroteP, wroteQ]
        exact ⟨rfl, requests, same.printed, same'⟩

theorem runAll_alike (failBindings failBuild : Bool) (unslashed : model.Unslashed)
    (apart : ∀ location, root <:+ location → ¬away <:+ location)
    (defined : DefinedApart here away settings) (stages : List Stage)
    (known : List (List String)) (placed : Stage.Placed known stages) (same : p.SameBut away q)
    (free : p.disk.LinkFree) (free' : q.disk.LinkFree)
    (sitesP : Sites here root settings model p.disk known)
    (sitesQ : Sites here root settings model q.disk known) :
    EndAlike away
      ((Stage.runAll here settings model (.standIn failBindings failBuild) stages).run.run p)
      ((Stage.runAll here settings model (.standIn failBindings failBuild) stages).run.run q) := by
  induction stages generalizing p q known with
  | nil => exact ⟨rfl, same⟩
  | cons stage rest ih =>
    have siteP := sitesP _ placed.1
    have siteQ := sitesQ _ placed.1
    obtain ⟨outcomes, same'⟩ := Stage.run_alike failBindings failBuild unslashed apart
      defined same free free' siteP siteQ
    rw [Stage.runAll, Run.run_bind, Run.run_bind]
    rcases first : (stage.run here settings model
      (.standIn failBindings failBuild)).run.run p with ⟨outcome, p'⟩
    rcases second : (stage.run here settings model
      (.standIn failBindings failBuild)).run.run q with ⟨outcome', q'⟩
    rw [first, second] at outcomes same'
    obtain rfl : outcome' = outcome := outcomes
    have changesP := (Stage.run_acts unslashed siteP first).changes
    have changesQ := (Stage.run_acts unslashed siteQ second).changes
    obtain ⟨error⟩ | ⟨⟨⟩⟩ := outcome'
    · exact ⟨rfl, same'⟩
    · exact ih _ placed.2 same' (changesP.linkFree free) (changesQ.linkFree free')
        (sitesP.after placed.1 changesP first) (sitesQ.after placed.1 changesQ second)

/-- A whole compilation, once the output directory is there. -/
theorem compile_alike {a b : Disk} (failBindings failBuild : Bool) (unslashed : model.Unslashed)
    (apart : ∀ location, here.follow (model.directory settings.outputPath) <:+ location →
      ¬away <:+ location)
    (defined : DefinedApart here away settings) (same : Disk.SameBut away a b)
    (freeA : a.LinkFree) (freeB : b.LinkFree) (insideA : a.entryAt here = some .directory)
    (insideB : b.entryAt here = some .directory) (rootedA : Rooted here settings.outputPath a)
    (rootedB : Rooted here settings.outputPath b) :
    EndAlike away (compile here settings (.standIn failBindings failBuild) model a)
      (compile here settings (.standIn failBindings failBuild) model b) := by
  cases accepted : model.validate with
  | error cause =>
    rw [compile, compile, accepted]
    exact ⟨rfl, rfl, rfl, same⟩
  | ok =>
    have isName := Model.isName_safeName unslashed.identity
    have off : ¬away <:+ model.safeName :: here.follow settings.outputPath := by
      rw [← Location.follow_child here settings.outputPath isName]
      exact apart _ List.suffix_rfl
    obtain ⟨outcomes, disks⟩ := ensureDirectory_alike same isName off rootedA.reaches
      rootedB.reaches rootedA.standing freeA freeB
    change (b.ensureDirectory here (model.directory settings.outputPath)).1 =
      (a.ensureDirectory here (model.directory settings.outputPath)).1 at outcomes
    change Disk.SameBut away (a.ensureDirectory here (model.directory settings.outputPath)).2
      (b.ensureDirectory here (model.directory settings.outputPath)).2 at disks
    rcases madeA : a.ensureDirectory here (model.directory settings.outputPath) with ⟨outcome, a'⟩
    rcases madeB : b.ensureDirectory here (model.directory settings.outputPath) with ⟨outcome', b'⟩
    rw [madeA, madeB] at outcomes disks
    obtain rfl : outcome' = outcome := outcomes
    obtain ⟨fault⟩ | ⟨⟨⟩⟩ := outcome'
    · rw [compile_noDirectory accepted rootedA.nothingToDo madeA,
        compile_noDirectory accepted rootedB.nothingToDo madeB]
      exact ⟨rfl, rfl, rfl, disks⟩
    · obtain ⟨addsA, thereA⟩ := ensureDirectory_spec madeA
      obtain ⟨addsB, thereB⟩ := ensureDirectory_spec madeB
      have nonempty := settings.outputPath.isEmpty_child isName
      have siteA := site_of_isDirectory (addsA.linkFree freeA)
        ((addsA.keeps here).directory _ insideA) (thereA rfl nonempty)
      have siteB := site_of_isDirectory (addsB.linkFree freeB)
        ((addsB.keeps here).directory _ insideB) (thereB rfl nonempty)
      obtain ⟨outcomes, same⟩ := runAll_alike (p := ⟨a', [], {}⟩) (q := ⟨b', [], {}⟩) failBindings
        failBuild unslashed apart defined Stage.all [[]] Stage.placed_all ⟨rfl, rfl, disks⟩
        (addsA.linkFree freeA) (addsB.linkFree freeB) (sites_of_site siteA) (sites_of_site siteB)
      rw [compile_eq_stages accepted rootedA.nothingToDo madeA,
        compile_eq_stages accepted rootedB.nothingToDo madeB]
      exact ⟨congrArg (Except.map fun _ => artifact settings model) outcomes, same⟩

end ModelForge.Compile
