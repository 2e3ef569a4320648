import Mathlib.Logic.Function.Basic
import ModelForge.Proofs.Compile.Run
import ModelForge.Proofs.Compile.Turn

/-! What a stage does as a function. Whether it succeeds and what it leaves at its places depends on
what was at these places, on whether the names are fit, and, where a file is written, on the
content. The tools are the stand-in. -/
namespace ModelForge

/-- What lies below a directory, each entry under the way back up from it. -/
abbrev View := Location → Option Entry

def Disk.view (disk : Disk) (root : Location) : View := fun below => disk.entryAt (below ++ root)

namespace Compile

open Disk

/-- Making a directory under a name: whether it succeeds, and what is there then. -/
def furnished (fits : Bool) : Option Entry → Bool × Option Entry
  | none => if fits = true then (true, some .directory) else (false, none)
  | some .directory => (fits, some .directory)
  | some entry => (false, some entry)

/-- Writing a file under a name. -/
def overwritten (fits : Bool) (content : ByteArray) (before : Option Entry) :
    Bool × Option Entry :=
  if fits = true then
    match Entry.write before content with
    | .ok entry => (true, some entry)
    | .error _ => (false, before)
  else (false, before)

namespace View

/-- Something is done to one entry. -/
def act (view : View) (place : Location) (action : Option Entry → Bool × Option Entry) :
    Bool × View :=
  ((action (view place)).1, Function.update view place (action (view place)).2)

def pair (view : View) (name : String) : Pair :=
  ⟨view [name, "yang"], view [stagedName name, "yang"]⟩

def setPair (view : View) (name : String) (pair : Pair) : View :=
  Function.update (Function.update view [name, "yang"] pair.file) [stagedName name, "yang"]
    pair.staged

theorem setPair_of_ne {view : View} {name : String} {pair : Pair} {below : Location}
    (other : ¬SchemaPlace ["yang"] name below) : setPair view name pair below = view below := by
  rw [SchemaPlace, not_or] at other
  rw [setPair, Function.update_of_ne other.2, Function.update_of_ne other.1]

@[simp] theorem pair_setPair_self (view : View) (name : String) (new : Pair) :
    pair (setPair view name new) name = new := by
  have differ : [name, "yang"] ≠ [stagedName name, "yang"] := by simp [(stagedName_ne name).symm]
  simp [pair, setPair, Function.update_of_ne differ]

/-- Another schema file keeps what it holds, and what is staged beside it stays. -/
theorem pair_setPair_of_ne {a b : SchemaModule} (view : View) (new : Pair)
    (differ : b.fileName ≠ a.fileName) :
    pair (setPair view a.fileName new) b.fileName = pair view b.fileName := by
  have file : ¬SchemaPlace ["yang"] a.fileName [b.fileName, "yang"] := by
    simp [SchemaPlace, differ, fileName_ne_stagedName]
  have staged : ¬SchemaPlace ["yang"] a.fileName [stagedName b.fileName, "yang"] := by
    rintro (same | same)
    · exact fileName_ne_stagedName a b.fileName (List.cons.inj same).1.symm
    · exact differ (stagedName_injective (List.cons.inj same).1)
  rw [pair, pair, setPair_of_ne file, setPair_of_ne staged]

end View

/-- The turn of one module. -/
def takeTurn (policy : CopyPolicy) (base : Path) (m : SchemaModule) (view : View) : Bool × View :=
  let (taken, pair) := turn policy (fits base m.fileName) (fits base (stagedName m.fileName)) m.data
    (View.pair view m.fileName)
  (taken, View.setPair view m.fileName pair)

/-- The turns of some modules, one after the other up to the first that fails. -/
def turns (policy : CopyPolicy) (base : Path) : List SchemaModule → View → Bool × View
  | [], view => (true, view)
  | m :: rest, view =>
    match takeTurn policy base m view with
    | (true, view) => turns policy base rest view
    | (false, view) => (false, view)

/-- The name of the one entry that a stage makes. -/
def Stage.name? (model : Model) : Stage → Option String
  | folder f => some f.name
  | source kind => some kind.outputFile
  | schemas => none
  | bindings => some "generated.rs"
  | build => some model.identity.artifactName

/-- The directory that a stage works in. -/
def Stage.base (settings : Settings) (model : Model) (stage : Stage) : Path :=
  (model.directory settings.outputPath).within stage.within

/-- What a stage does to the entry that it makes. -/
def Stage.action (fits : Bool) (content : ByteArray) : Stage → Option Entry → Bool × Option Entry
  | folder _ => furnished fits
  | _ => overwritten fits content

/-- What a stage does below the directory of the model. -/
def Stage.effect (settings : Settings) (model : Model) (stage : Stage) (content : ByteArray)
    (view : View) : Bool × View :=
  match stage.name? model with
  | some name => View.act view (name :: stage.within.reverse)
      (stage.action (fits (stage.base settings model) name) content)
  | none => turns settings.copyPolicy (stage.base settings model) model.modules view

section Site

variable {disk new : Disk} {here root : Location} {base : Path} {name : String}

theorem ensure_furnished (site : disk.Site here base root) (isName : Path.IsName name)
    {result : Except Fault Unit}
    (ensured : disk.ensureDirectory here (base.child name) = (result, new)) :
    (result.toBool, new.entryAt (name :: root)) =
      furnished (fits base name) (disk.entryAt (name :: root)) := by
  rw [site.ensureDirectory_eq isName] at ensured
  unfold fits
  cases faulty : nameFault? base name with
  | some fault =>
    rw [faulty] at ensured
    cases ensured
    cases found : disk.entryAt (name :: root) with
    | none => simp [furnished, Except.toBool]
    | some entry => cases entry <;> simp [furnished, Except.toBool]
  | none =>
    rw [faulty] at ensured
    cases found : disk.entryAt (name :: root) with
    | none =>
      have canPut : disk.CanPut name root := ⟨site.standing, by simp [found]⟩
      simp only [found] at ensured
      cases ensured
      simp [furnished, entryAt_put canPut, Except.toBool]
    | some entry =>
      rw [found] at ensured
      cases entry <;> cases ensured <;> simp [furnished, found, Except.toBool]

theorem write_overwritten (site : disk.Site here base root) (isName : Path.IsName name)
    (content : ByteArray) :
    (match disk.write here (base.child name) content with
      | .ok new => (true, new.entryAt (name :: root))
      | .error _ => (false, disk.entryAt (name :: root))) =
      overwritten (fits base name) content (disk.entryAt (name :: root)) := by
  rw [site.write_eq isName]
  unfold overwritten fits
  cases nameFault? base name with
  | some fault => simp
  | none =>
    cases written : Entry.write (disk.entryAt (name :: root)) content with
    | error fault => simp [Except.map]
    | ok entry =>
      have canPut : disk.CanPut name root := ⟨site.standing, (Entry.write_ok written).2⟩
      simp [Except.map, entryAt_put canPut]

end Site

/-- A view of what has changed under one name. -/
theorem view_eq_update {old new : Disk} {root : Location} (place : Location)
    (changes : Changes (· = place ++ root) old new) :
    new.view root = Function.update (old.view root) place (new.entryAt (place ++ root)) := by
  funext below
  by_cases own : below = place
  · rw [own, Function.update_self]
    rfl
  · rw [Function.update_of_ne own]
    exact changes.frame _ fun same => own (List.append_cancel_right same)

variable (here : Location) (settings : Settings) (model : Model) (failBindings failBuild : Bool)

/-- The text that a stage is to write, or why it refuses. -/
def Stage.text (stage : Stage) (disk : Disk) : Except Error String :=
  match stage with
  | source kind =>
    (Source.renderText disk here kind (kind.definitionPath settings.templatePath)
      (context here settings model)).mapError (.ofRender (.ofKind kind))
  | bindings =>
    if failBindings then
      .error (.externalProcess .generateBindings "fake-bindgen" "exited with exit status: 1")
    else .ok "pub struct Device;\n"
  | build =>
    if failBuild then
      .error (.externalProcess .build "fake-cargo" "exited with exit status: 101")
    else .ok "fake artifact"
  | folder _ | schemas => .ok ""

variable {here settings model failBindings failBuild} {root : Location} {stage : Stage}
  {name : String} {progress final : Progress} {result : Except Error Unit}

theorem Stage.isName_name (unslashed : model.identity.Unslashed)
    (named : stage.name? model = some name) : Path.IsName name := by
  cases stage with
  | schemas => cases named
  | folder f => cases named; exact f.isName
  | source kind => cases named; exact isName_outputFile kind
  | bindings => cases named; decide
  | build => cases named; exact Model.isName_artifactName unslashed

theorem Stage.owns_iff (named : stage.name? model = some name) {below : Location} :
    stage.Owns model below ↔ below = name :: stage.within.reverse := by
  cases stage <;> cases named <;> rfl

theorem append_unprinted (printed : Process.Printed) : printed ++ {} = printed := by
  obtain ⟨output, complaint⟩ := printed
  change (⟨output ++ "", complaint ++ ""⟩ : Process.Printed) = _
  simp

/-- A stage that writes a file, in so many words. -/
theorem Stage.run_file (named : stage.name? model = some name) (notFolder : ∀ f, stage ≠ folder f)
    (inside : progress.disk.entryAt here = some .directory) :
    (stage.run here settings model (.standIn failBindings failBuild)).run.run progress =
      let next := { progress with
        requests := progress.requests ++ stage.requests settings model }
      match stage.text here settings model failBindings failBuild progress.disk with
      | .error error => (.error error, next)
      | .ok text =>
        let path := (stage.base settings model).child name
        match progress.disk.write here path text.toUTF8 with
        | .error fault => (.error (.io stage.step path fault), next)
        | .ok disk => (.ok (), { next with disk }) := by
  cases stage with
  | folder f => exact absurd rfl (notFolder f)
  | schemas => cases named
  | source kind =>
    obtain rfl := Option.some.inj named
    simp only [Stage.run, generate, Run.run_onDisk, if_pos inside, target_eq, Source.renderFile,
      Stage.requests, List.append_nil, Stage.within, Stage.step, Stage.text, Stage.base]
    cases Source.renderText progress.disk here kind (kind.definitionPath settings.templatePath)
        (context here settings model) with
    | error error => rfl
    | ok text =>
      simp only [Except.mapError]
      cases progress.disk.write here (((model.directory settings.outputPath).within
        (sourceWithin kind)).child kind.outputFile) text.toUTF8 <;> rfl
  | bindings =>
    obtain rfl := Option.some.inj named
    simp only [Stage.run, Run.run_perform, Toolchain.standIn, bindingRequest, sourceTree,
      bindings_path, Stage.requests, Stage.within, Stage.step, Stage.text, Stage.base]
    cases failBindings with
    | true => simp [append_unprinted]
    | false =>
      simp only [Bool.false_eq_true, if_false, Toolchain.produce]
      cases progress.disk.write here (((model.directory settings.outputPath).within
        ["src", "plugin"]).child "generated.rs") "pub struct Device;\n".toUTF8 <;>
          simp [append_unprinted]
  | build =>
    obtain rfl := Option.some.inj named
    simp only [Stage.run, Run.run_perform, Toolchain.standIn, buildRequest, Stage.requests,
      Stage.within, Stage.step, Path.within, List.foldl, Stage.text, Stage.base]
    cases failBuild with
    | true => simp [append_unprinted]
    | false =>
      simp only [Bool.false_eq_true, if_false, Toolchain.produce, Model.artifact, Model.fileIn]
      cases progress.disk.write here ((model.directory settings.outputPath).child
        model.identity.artifactName) "fake artifact".toUTF8 <;> simp [append_unprinted]

/-- The loop over the modules is their turns. -/
theorem copyModules_turns (modules : List SchemaModule)
    (unslashed : ∀ m ∈ modules, m.identity.Unslashed)
    (site : progress.disk.Site here (model.schemaDirectory settings.outputPath) ("yang" :: root))
    (ran : (copyModules here settings model modules).run.run progress = (result, final)) :
    (result.toBool, final.disk.view root) = turns settings.copyPolicy
        (model.schemaDirectory settings.outputPath) modules (progress.disk.view root) ∧
      final.printed = progress.printed := by
  induction modules generalizing progress with
  | nil =>
    cases ran
    exact ⟨rfl, rfl⟩
  | cons m rest ih =>
    have isName := SchemaModule.isName_fileName (unslashed m List.mem_cons_self)
    rw [run_copyModules_cons] at ran
    rcases wrote : writeSchema progress.disk here settings.copyPolicy
      (model.schemaFile settings.outputPath m) m.data with ⟨outcome, disk⟩
    have changes := writeSchema_changes site isName wrote
    have taken : (outcome.toBool, disk.view root) = takeTurn settings.copyPolicy
        (model.schemaDirectory settings.outputPath) m (progress.disk.view root) := by
      have pair := writeSchema_turn site isName wrote
      rw [takeTurn]
      change (_, View.pair (disk.view root) m.fileName) =
        turn _ _ _ _ (View.pair (progress.disk.view root) m.fileName) at pair
      rw [← pair]
      refine Prod.ext rfl (funext fun below => ?_)
      change disk.view root below = View.setPair (progress.disk.view root) m.fileName
        (View.pair (disk.view root) m.fileName) below
      by_cases own : SchemaPlace ["yang"] m.fileName below
      · have same := View.pair_setPair_self (progress.disk.view root) m.fileName
          (View.pair (disk.view root) m.fileName)
        rcases own with rfl | rfl
        · exact (congrArg Pair.file same).symm
        · exact (congrArg Pair.staged same).symm
      · rw [View.setPair_of_ne own]
        refine changes.frame _ fun place => own ?_
        rcases place with eq | eq
        · exact .inl ((List.append_left_inj root).1 eq)
        · exact .inr ((List.append_left_inj root).1 eq)
    rw [wrote] at ran
    rw [turns, ← taken]
    cases outcome with
    | error error =>
      cases ran
      exact ⟨rfl, rfl⟩
    | ok outcome =>
      exact ih (fun other member => unslashed other (List.mem_cons_of_mem _ member))
        (site.changes changes) ran

theorem Stage.Ends.changes {old new : Disk}
    (ends : stage.Ends here root settings model result old new) :
    Changes (stage.Places model root) old new := by
  rcases ends with ⟨-, changes, -⟩ | ⟨-, -, -, residue⟩
  · exact changes
  · exact residue.mono fun _ => residue_places

theorem Stage.base_schemas :
    Stage.base settings model schemas = model.schemaDirectory settings.outputPath := by
  simp only [Stage.base, Stage.within, Path.within, List.foldl, Model.schemaDirectory]

/-- What one entry becomes is what the effect of its stage says. -/
theorem Stage.view_effect (stage : Stage) (settings : Settings) (content : ByteArray)
    {old new : Disk} {done : Bool}
    (named : stage.name? model = some name)
    (changes : Changes (· = name :: (stage.within.reverse ++ root)) old new)
    (acted : (done, new.entryAt (name :: (stage.within.reverse ++ root))) =
      stage.action (fits (stage.base settings model) name) content
        (old.entryAt (name :: (stage.within.reverse ++ root)))) :
    Changes (stage.Places model root) old new ∧
      (done, new.view root) = stage.effect settings model content (old.view root) := by
  refine ⟨changes.mono ?_, ?_⟩
  · rintro _ rfl
    exact ⟨name :: stage.within.reverse, (Stage.owns_iff named).2 rfl, rfl⟩
  · simp only [Stage.effect, named, View.act, view_eq_update (name :: stage.within.reverse)
      changes]
    have before : old.view root (name :: stage.within.reverse) =
      old.entryAt (name :: (stage.within.reverse ++ root)) := rfl
    rw [before, ← acted, List.cons_append]

/-- What is said of a stage that has run in a directory that is there. It refuses and changes
nothing, or does to the entries what its effect says. -/
structure Stage.Acts (here root : Location) (settings : Settings) (model : Model)
    (failBindings failBuild : Bool) (stage : Stage) (progress : Progress)
    (result : Except Error Unit) (final : Progress) : Prop where
  changes : Changes (stage.Places model root) progress.disk final.disk
  requests : final.requests = progress.requests ++ stage.requests settings model
  printed : final.printed = progress.printed
  effect : match stage.text here settings model failBindings failBuild progress.disk with
    | .error error => result = .error error ∧ final.disk = progress.disk
    | .ok text => (result.toBool, final.disk.view root) =
        stage.effect settings model text.toUTF8 (progress.disk.view root)

theorem Stage.folder_acts {f : Folder}
    (site : progress.disk.Site here (Stage.base settings model (folder f))
      (f.within.reverse ++ root))
    (ran : ((folder f).run here settings model (.standIn failBindings failBuild)).run.run progress =
      (result, final)) :
    (folder f).Acts here root settings model failBindings failBuild progress result final := by
  rw [Stage.run, Run.run_ensure] at ran
  rcases ensured : progress.disk.ensureDirectory here
    ((Stage.base settings model (folder f)).child f.name) with ⟨outcome, disk⟩
  rw [Stage.base, Stage.within] at ensured
  rw [ensured] at ran
  cases ran
  obtain ⟨changes, effect⟩ := Stage.view_effect (folder f) settings "".toUTF8 rfl
    (site.ensure f.isName ensured).1.changes (ensure_furnished site f.isName ensured)
  refine ⟨changes, by simp [Stage.requests], rfl, ?_⟩
  cases outcome <;> exact effect

theorem Stage.schemas_acts (unslashed : model.Unslashed)
    (site : progress.disk.Site here (Stage.base settings model schemas) ("yang" :: root))
    (ran : (schemas.run here settings model (.standIn failBindings failBuild)).run.run progress =
      (result, final)) :
    schemas.Acts here root settings model failBindings failBuild progress result final := by
  rw [Stage.run] at ran
  obtain ⟨ends, requests⟩ := schemas_ends unslashed site ran
  rw [Stage.base_schemas] at site
  obtain ⟨turned, printed⟩ := copyModules_turns model.modules unslashed.modules site ran
  refine ⟨ends.changes, by simpa [Stage.requests] using requests, printed, ?_⟩
  rw [Stage.text]
  simpa only [Stage.effect, Stage.name?, Stage.base_schemas] using turned

theorem Stage.file_acts (isName : Path.IsName name)
    (named : stage.name? model = some name) (notFolder : ∀ f, stage ≠ folder f)
    (site : progress.disk.Site here (stage.base settings model) (stage.within.reverse ++ root))
    (ran : (stage.run here settings model (.standIn failBindings failBuild)).run.run progress =
      (result, final)) :
    stage.Acts here root settings model failBindings failBuild progress result final := by
  rw [Stage.run_file named notFolder site.inside] at ran
  cases text : stage.text here settings model failBindings failBuild progress.disk with
  | error error =>
    rw [text] at ran
    cases ran
    exact ⟨.refl _ _, rfl, rfl, by rw [text]; exact ⟨rfl, rfl⟩⟩
  | ok content =>
    rw [text] at ran
    have action : ∀ before, stage.action (fits (stage.base settings model) name) content.toUTF8
        before = overwritten (fits (stage.base settings model) name) content.toUTF8 before := by
      intro before
      cases stage with
      | folder f => exact absurd rfl (notFolder f)
      | _ => rfl
    have acted := write_overwritten site isName content.toUTF8
    rw [← action] at acted
    cases written : progress.disk.write here ((stage.base settings model).child name)
        content.toUTF8 with
    | error fault =>
      rw [written] at acted
      simp only [written] at ran
      cases ran
      obtain ⟨changes, effect⟩ := Stage.view_effect _ _ _ named (.refl _ _) acted
      exact ⟨changes, rfl, rfl, by rw [text]; exact effect⟩
    | ok disk =>
      rw [written] at acted
      simp only [written] at ran
      cases ran
      obtain ⟨changes, effect⟩ :=
        Stage.view_effect _ _ _ named (site.write_changes isName written).1 acted
      exact ⟨changes, rfl, rfl, by rw [text]; exact effect⟩

/-- Stages with fixed names, whatever the names in the model are. -/
theorem Stage.fixed_acts {place : Location} (fixed : stage.fixed? = some place)
    (site : progress.disk.Site here (stage.base settings model) (stage.within.reverse ++ root))
    (ran : (stage.run here settings model (.standIn failBindings failBuild)).run.run progress =
      (result, final)) :
    stage.Acts here root settings model failBindings failBuild progress result final := by
  cases stage with
  | folder f => exact Stage.folder_acts site ran
  | source kind => exact Stage.file_acts (isName_outputFile kind) rfl (by simp) site ran
  | bindings => exact Stage.file_acts (by decide) rfl (by simp) site ran
  | schemas | build => cases fixed

theorem Stage.run_acts (unslashed : model.Unslashed)
    (site : progress.disk.Site here (stage.base settings model) (stage.within.reverse ++ root))
    (ran : (stage.run here settings model (.standIn failBindings failBuild)).run.run progress =
      (result, final)) :
    stage.Acts here root settings model failBindings failBuild progress result final := by
  cases stage with
  | folder | source | bindings => exact Stage.fixed_acts rfl site ran
  | schemas => exact Stage.schemas_acts unslashed site ran
  | build =>
    exact Stage.file_acts (Model.isName_artifactName unslashed.identity) rfl (by simp) site ran

end Compile

end ModelForge
