import ModelForge.Proofs.Compile.Lockstep

/-! What lies in the directory of a model after the stages: what was there before, the directories
of the layout, and what each stage has left at its places. -/
namespace ModelForge.Compile

open Disk Stage

variable {here root : Location} {settings : Settings} {model : Model} {stage : Stage}
  {failBindings failBuild : Bool} {disk : Disk} {progress final : Progress}
  {result : Except Error Unit}

section Directories

/-- Schema files and what is staged for them do not become directories. -/
theorem turn_directory {policy : CopyPolicy} {fits stagedFits : Bool} {data : ByteArray}
    {pair : Pair} :
    ((turn policy fits stagedFits data pair).2.file = some .directory →
      pair.file = some .directory) ∧
    ((turn policy fits stagedFits data pair).2.staged = some .directory →
      pair.staged = some .directory) := by
  unfold turn
  split
  · exact ⟨id, id⟩
  split
  · split
    · exact ⟨id, id⟩
    · rename_i entry written
      have leaf := (Entry.write_ok written).1.1
      split
      · simp
      · simp [leaf]
  · exact ⟨id, id⟩

theorem turns_directory {policy : CopyPolicy} {base : Path} (modules : List SchemaModule)
    (view : View) {below : Location}
    (there : (turns policy base modules view).2 below = some .directory) :
    view below = some .directory := by
  refine turns_induct (fun later => later below = some .directory → view below = some .directory)
    modules ?_ view id there
  intro m member later before there
  apply before
  rw [takeTurn_snd] at there
  by_cases own : SchemaPlace ["yang"] m.fileName below
  · have same := View.pair_setPair_self later m.fileName (turn policy (fits base m.fileName)
      (fits base (stagedName m.fileName)) m.data (View.pair later m.fileName)).2
    rcases own with rfl | rfl
    · exact turn_directory.1 ((congrArg Pair.file same).symm.trans there)
    · exact turn_directory.2 ((congrArg Pair.staged same).symm.trans there)
  · rwa [View.setPair_of_ne own] at there

/-- The directories that a stage leaves were there, or it has made them. -/
theorem Stage.effect_directory {content : ByteArray} {view : View} {below : Location}
    (there : (stage.effect settings model content view).2 below = some .directory) :
    view below = some .directory ∨ below.reverse ∈ stage.makes := by
  by_cases own : stage.Owns model below
  · unfold Stage.effect at there
    split at there
    · rename_i name named
      obtain rfl := (Stage.owns_iff named).1 own
      simp only [View.act, Function.update_self] at there
      cases stage with
      | folder f =>
        cases named
        exact .inr (by simp [Stage.makes, Stage.within])
      | schemas => cases named
      | _ =>
        refine .inl ?_
        simp only [Stage.action, overwritten] at there
        split at there
        · split at there
          · exact absurd (Option.some.inj there) (Entry.write_ok ‹_›).1.1
          · exact there
        · exact there
    · exact .inl (turns_directory _ _ there)
  · rw [Stage.effect_frame own] at there
    exact .inl there

theorem Stage.Acts.directory
    (acts : stage.Acts here root settings model failBindings failBuild progress result final)
    {location : Location} (there : final.disk.entryAt location = some .directory) :
    progress.disk.entryAt location = some .directory ∨
      ∃ within ∈ stage.makes, location = within.reverse ++ root := by
  by_cases own : stage.Places model root location
  · obtain ⟨below, -, rfl⟩ := own
    have effect := acts.effect
    split at effect
    · rw [effect.2] at there
      exact .inl there
    · have leaves := congrFun (congrArg Prod.snd effect) below
      rcases Stage.effect_directory (leaves.symm.trans there) with before | made
      · exact .inl before
      · exact .inr ⟨below.reverse, made, by simp⟩
  · rw [acts.changes.frame _ own] at there
    exact .inl there

end Directories

theorem Stage.owns_names (unslashed : model.Unslashed) {below : Location}
    (owns : stage.Owns model below) : ∀ name ∈ below, Path.IsName name := by
  have fixed : ∀ stage ∈ all, ∀ place ∈ stage.fixed?, ∀ name ∈ place, Path.IsName name := by
    decide
  rcases owns_cases owns with own | ⟨rfl, -⟩ | ⟨rfl, rfl⟩
  · exact fixed stage (mem_all stage) below own
  · obtain ⟨m, member, place⟩ := owns
    have isName := SchemaModule.isName_fileName (unslashed.modules m member)
    have isStaged := isName_stagedName isName.unslashed
    have yang : Path.IsName "yang" := by decide
    rcases place with rfl | rfl <;> simp [isName, isStaged, yang]
  · simpa using Model.isName_artifactName unslashed.identity

theorem overwritten_done {fits : Bool} {content : ByteArray} {before : Option Entry}
    (done : (overwritten fits content before).1 = true) :
    fits = true ∧ ∃ entry, Entry.write before content = .ok entry ∧
      (overwritten fits content before).2 = some entry := by
  unfold overwritten at done ⊢
  split at done
  · rename_i fit
    split at done
    · rename_i entry written
      exact ⟨fit, entry, written, by simp [fit]⟩
    · cases done
  · cases done

/-- A build that succeeds leaves a file, unless a device was there. -/
theorem Stage.Acts.built
    (acts : build.Acts here root settings model failBindings failBuild progress (.ok ()) final) :
    nameFault? (model.directory settings.outputPath) model.identity.artifactName = none ∧
      ((∃ kind, progress.disk.entryAt (model.identity.artifactName :: root) =
          some (.device kind)) ∨
        ∃ content executable, final.disk.entryAt (model.identity.artifactName :: root) =
          some (.file content executable)) := by
  have effect := acts.effect
  cases failBuild with
  | true => cases effect.1
  | false =>
    have succeeds := congrArg Prod.fst effect
    have leaves := congrFun (congrArg Prod.snd effect) [model.identity.artifactName]
    simp only [Stage.effect, Stage.name?, View.act, Stage.within, List.reverse_nil,
      Function.update_self, Stage.action] at leaves succeeds
    obtain ⟨fit, entry, written, after⟩ := overwritten_done succeeds.symm
    rw [after] at leaves
    refine ⟨fits_iff.1 fit, ?_⟩
    rcases Entry.write_cases written with ⟨executable, rfl, -⟩ | ⟨kind, -, device⟩
    · exact .inr ⟨_, executable, leaves⟩
    · exact .inl ⟨kind, device⟩

/-- What is staged is gone after a turn that succeeds, unless the file was there and was skipped. -/
theorem turn_staged {policy : CopyPolicy} {fits stagedFits : Bool} {data : ByteArray} {pair : Pair}
    (done : (turn policy fits stagedFits data pair).1 = true) :
    (turn policy fits stagedFits data pair).2.staged = none ∨
      (policy = .skipExisting ∧ (turn policy fits stagedFits data pair).2 = pair) := by
  unfold turn at done ⊢
  split
  · rename_i skipped
    exact .inr ⟨skipped.1, rfl⟩
  · rename_i goes
    rw [if_neg goes] at done
    split
    · split
      · simp_all
      · left
        split <;> rfl
    · simp_all

theorem turns_staged {policy : CopyPolicy} {base : Path} (modules : List SchemaModule)
    (view : View) (done : (turns policy base modules view).1 = true) (m : SchemaModule) :
    (View.pair (turns policy base modules view).2 m.fileName).staged = none ∨
      ((View.pair (turns policy base modules view).2 m.fileName).staged =
          (View.pair view m.fileName).staged ∧
        (m ∈ modules → policy = .skipExisting)) := by
  induction modules generalizing view with
  | nil => exact .inr ⟨rfl, by simp⟩
  | cons first rest ih =>
    rw [turns_cons] at done ⊢
    split at done
    case isFalse => cases done
    rename_i taken
    rw [if_pos taken]
    obtain gone | ⟨same, skips⟩ := ih _ done
    · exact .inl gone
    rw [same, takeTurn_snd]
    by_cases own : m.fileName = first.fileName
    · rw [own, View.pair_setPair_self]
      rw [takeTurn_fst] at taken
      rcases turn_staged taken with gone | ⟨skip, kept⟩
      · exact .inl gone
      · exact .inr ⟨by rw [kept], fun _ => skip⟩
    · rw [View.pair_setPair_of_ne view _ own]
      refine .inr ⟨rfl, fun member => ?_⟩
      rcases List.mem_cons.1 member with rfl | member
      · exact absurd rfl own
      · exact skips member

/-- Copying that succeeds leaves nothing staged, but what was there before if the file was there and
was skipped. -/
theorem Stage.Acts.copied
    (acts : schemas.Acts here root settings model failBindings failBuild progress (.ok ()) final)
    {m : SchemaModule} (member : m ∈ model.modules) :
    final.disk.entryAt (stagedName m.fileName :: "yang" :: root) = none ∨
      (settings.copyPolicy = .skipExisting ∧
        final.disk.entryAt (stagedName m.fileName :: "yang" :: root) =
          progress.disk.entryAt (stagedName m.fileName :: "yang" :: root)) := by
  have effect := acts.effect
  have leaves : final.disk.view root = _ := congrArg Prod.snd effect
  rcases turns_staged model.modules (progress.disk.view root) (congrArg Prod.fst effect).symm m with
    gone | ⟨same, skips⟩
  · left
    exact (congrFun leaves _).trans gone
  · exact .inr ⟨skips member, (congrFun leaves _).trans same⟩

/-- What some stages have done to a disk: their places have changed, and the directories that are new
are those of the layout. -/
structure Filled (model : Model) (root : Location) (old new : Disk) : Prop where
  changes : Changes (fun location => ∃ stage : Stage, stage.Places model root location) old new
  directory : ∀ location, new.entryAt location = some .directory →
    old.entryAt location = some .directory ∨
      ∃ (stage : Stage), ∃ within ∈ stage.makes, location = within.reverse ++ root

theorem Filled.after {old : Disk} (filled : Filled model root old progress.disk)
    (acts : stage.Acts here root settings model failBindings failBuild progress result final) :
    Filled model root old final.disk where
  changes := filled.changes.trans (acts.changes.mono fun _ place => ⟨stage, place⟩)
  directory location there := by
    rcases acts.directory there with before | made
    · exact filled.directory location before
    · exact .inr ⟨stage, made⟩

theorem stages_fill (unslashed : model.Unslashed)
    (site : disk.Site here (model.directory settings.outputPath) root)
    (ran : (Stage.runAll here settings model (.standIn failBindings failBuild)
      Stage.all).run.run ⟨disk, [], {}⟩ = (.ok (), final)) :
    Filled model root disk final.disk ∧ ∀ (stage : Stage), ∀ within ∈ stage.makes,
      final.disk.Site here ((model.directory settings.outputPath).within within)
        (within.reverse ++ root) := by
  obtain ⟨filled, sites⟩ := runAll_induct (Filled model root disk) Stage.all [[]] Stage.placed_all
    (sites_of_site site) (fun stage _ => Stage.run_acts unslashed)
    (fun _ _ {_ _ _} acts filled => filled.after acts) ⟨.refl _ _, fun _ there => .inl there⟩ ran
  have made : ∀ stage ∈ Stage.all, ∀ within ∈ stage.makes,
      within ∈ Stage.made [[]] Stage.all := by
    decide
  exact ⟨filled, fun stage within member =>
    sites rfl within (made stage (mem_all stage) within member)⟩

/-- The places of a stage are left alone by the others. -/
theorem runAll_elsewhere (unslashed : model.Unslashed) {stages : List Stage}
    {known : List (List String)} (other : stage ∉ stages) (placed : Stage.Placed known stages)
    (sites : Sites here root settings model progress.disk known)
    (ran : (Stage.runAll here settings model (.standIn failBindings failBuild)
      stages).run.run progress = (result, final)) :
    (∀ location, stage.Places model root location →
      final.disk.entryAt location = progress.disk.entryAt location) ∧
    (result = .ok () → Sites here root settings model final.disk (Stage.made known stages)) := by
  refine runAll_induct (fun disk => ∀ location, stage.Places model root location →
    disk.entryAt location = progress.disk.entryAt location) stages known placed sites
    (fun stage _ => Stage.run_acts unslashed) ?_ (fun _ _ => rfl) ran
  intro later member before outcome after acts same location place
  rw [acts.changes.frame location fun own => other (Stage.places_unique place own ▸ member)]
  exact same location place

/-- A stage finds at its places what was there at first, and what it leaves stays. -/
theorem runAll_at (unslashed : model.Unslashed) {first later : List Stage}
    (shape : Stage.all = first ++ stage :: later)
    (site : disk.Site here (model.directory settings.outputPath) root)
    (ran : (Stage.runAll here settings model (.standIn failBindings failBuild)
      Stage.all).run.run ⟨disk, [], {}⟩ = (.ok (), final)) :
    ∃ before after,
      stage.Acts here root settings model failBindings failBuild before (.ok ()) after ∧
      ∀ location, stage.Places model root location →
        before.disk.entryAt location = disk.entryAt location ∧
          final.disk.entryAt location = after.disk.entryAt location := by
  have nodup : Stage.all.Nodup := by decide
  have placed := Stage.placed_all
  rw [shape] at nodup placed
  rw [shape, runAll_append] at ran
  obtain ⟨placedFirst, placedStage, placedLater⟩ := Stage.placed_append.1 placed
  obtain ⟨-, fresh, apart⟩ := List.nodup_append.1 nodup
  obtain ⟨⟨⟩, before, ranFirst, ran⟩ := Run.run_bind_ok ran
  rw [Stage.runAll] at ran
  obtain ⟨⟨⟩, after, ranStage, ranLater⟩ := Run.run_bind_ok ran
  have earlier : stage ∉ first := fun member => apart stage member stage List.mem_cons_self rfl
  obtain ⟨same, sites⟩ := runAll_elsewhere unslashed earlier placedFirst (sites_of_site site)
    ranFirst
  have sites := sites rfl
  have acts := Stage.run_acts unslashed (sites _ placedStage) ranStage
  obtain ⟨same', -⟩ := runAll_elsewhere unslashed (List.nodup_cons.1 fresh).1 placedLater
    (sites.after placedStage acts.changes ranStage) ranLater
  exact ⟨before, after, acts, fun location place => ⟨same location place, same' location place⟩⟩

/-- The stages have built the artifact, unless a device was there. -/
theorem artifact_left (unslashed : model.Unslashed)
    (site : disk.Site here (model.directory settings.outputPath) root)
    (ran : (Stage.runAll here settings model (.standIn failBindings failBuild)
      Stage.all).run.run ⟨disk, [], {}⟩ = (.ok (), final)) :
    nameFault? (model.directory settings.outputPath) model.identity.artifactName = none ∧
      ((∃ kind, disk.entryAt (model.identity.artifactName :: root) = some (.device kind)) ∨
        ∃ content executable, final.disk.entryAt (model.identity.artifactName :: root) =
          some (.file content executable)) := by
  obtain ⟨before, after, acts, same⟩ := runAll_at unslashed
    (show Stage.all = Stage.all.take 11 ++ build :: [] from rfl) site ran
  obtain ⟨found, left⟩ := same _ (places_artifact model root)
  rw [← found, left]
  exact acts.built

theorem staged_left (unslashed : model.Unslashed)
    (site : disk.Site here (model.directory settings.outputPath) root)
    (ran : (Stage.runAll here settings model (.standIn failBindings failBuild)
      Stage.all).run.run ⟨disk, [], {}⟩ = (.ok (), final))
    {m : SchemaModule} (member : m ∈ model.modules) :
    final.disk.entryAt (stagedName m.fileName :: "yang" :: root) = none ∨
      (settings.copyPolicy = .skipExisting ∧
        final.disk.entryAt (stagedName m.fileName :: "yang" :: root) =
          disk.entryAt (stagedName m.fileName :: "yang" :: root)) := by
  obtain ⟨before, after, acts, same⟩ := runAll_at unslashed
    (show Stage.all = Stage.all.take 9 ++ schemas :: [bindings, build] from rfl) site ran
  obtain ⟨found, left⟩ := same _ (places_staged member root)
  rw [← found, left]
  exact acts.copied member

end ModelForge.Compile
