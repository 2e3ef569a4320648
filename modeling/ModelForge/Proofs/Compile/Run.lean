import ModelForge.Proofs.Compile.Effect

/-! Runs of the stages. A run that ends in an error has done all the stages before the one that
failed and none after it. What a stage has done is not undone by those that follow, as no two
stages share a place. -/
namespace ModelForge.Compile

open Disk

variable (here root : Location) (settings : Settings) (model : Model)

/-- What the definitions are read from is out of the way of some stages: there are no links, or
nothing lies yet where the stages write. -/
def Plain (stages : List Stage) (disk : Disk) : Prop :=
  disk.LinkFree ∨
    ∀ stage ∈ stages, ∀ location, stage.Places model root location → disk.entryAt location = none

/-- The state after some stages, with what a failed one may have left. -/
structure Reached (done : List Stage) (residue : Location → Prop) (old new : Disk) : Prop where
  changes : Changes
    (fun location => (∃ stage ∈ done, stage.Places model root location) ∨ residue location) old new
  done : ∀ stage ∈ done, stage.Done here root settings model old new

variable {here root settings model} {old middle new : Disk} {stage : Stage} {stages : List Stage}

theorem Plain.undisturbed (plain : Plain root model stages old) {places : Location → Prop}
    (own : ∀ location, places location → ∃ stage ∈ stages, stage.Places model root location) :
    Undisturbed here settings places old := by
  intro kind location content executable located entry place
  obtain ⟨stage, member, place⟩ := own location place
  rcases plain with free | vacant
  · obtain ⟨below, owns, rfl⟩ := place
    obtain ⟨name, more, rfl⟩ := List.exists_cons_of_ne_nil (Stage.owns_ne_nil owns)
    have spelled := (locate_eq_ok_iff.1 located).2.eq_follow free
    rw [Source.Kind.definitionPath, Location.follow_child _ _ (isName_definitionFile kind),
      List.cons_append] at spelled
    exact Stage.ne_definitionFile owns kind (List.cons.inj spelled).1
  · simp [vacant stage member location place] at entry

theorem Plain.rest (plain : Plain root model (stage :: stages) old) (fresh : stage ∉ stages)
    (changes : Changes (stage.Places model root) old new) : Plain root model stages new := by
  rcases plain with free | vacant
  · exact .inl (changes.linkFree free)
  · refine .inr fun other member location place => ?_
    rw [changes.frame location fun own => fresh (Stage.places_unique own place ▸ member)]
    exact vacant other (List.mem_cons_of_mem _ member) location place

/-- One stage, and then others. -/
theorem Reached.cons {done : List Stage} {residue : Location → Prop}
    (reached : Reached here root settings model done residue middle new)
    (changes : Changes (stage.Places model root) old middle)
    (first : stage.Done here root settings model old middle)
    (inside : old.entryAt here = some .directory)
    (plain : Plain root model (stage :: stages) old) (fresh : stage ∉ stages)
    (sub : done ⊆ stages)
    (left : ∀ location, residue location →
      ∃ other ∈ stages, other.Places model root location) :
    Reached here root settings model (stage :: done) residue old new := by
  have later : ∀ location, ((∃ other ∈ done, other.Places model root location) ∨
      residue location) → ∃ other ∈ stages, other.Places model root location := by
    rintro location (⟨other, member, place⟩ | rest)
    · exact ⟨other, sub member, place⟩
    · exact left location rest
  constructor
  · refine (changes.mono fun _ place => .inl ⟨stage, List.mem_cons_self, place⟩).trans
      (reached.changes.mono ?_)
    rintro location (⟨other, member, place⟩ | rest)
    · exact .inl ⟨other, List.mem_cons_of_mem _ member, place⟩
    · exact .inr rest
  · intro other member
    rcases List.mem_cons.1 member with rfl | member
    · refine first.later reached.changes (changes.directory _ inside) ?_
        ((plain.rest fresh changes).undisturbed later)
      intro location place rest
      obtain ⟨other, member, place'⟩ := later location rest
      exact fresh (Stage.places_unique place place' ▸ member)
    · refine (reached.done other member).earlier changes inside ?_
        (plain.undisturbed fun _ place => ⟨stage, List.mem_cons_self, place⟩)
      intro location place place'
      exact fresh (Stage.places_unique place' place ▸ sub member)

theorem residue_places {location : Location} (rest : stage.Residue root model location) :
    stage.Places model root location := by
  cases stage with
  | schemas => exact rest
  | _ => exact rest.elim

theorem runAll_append (toolchain : Toolchain) (first later : List Stage) :
    Stage.runAll here settings model toolchain (first ++ later) = (do
      Stage.runAll here settings model toolchain first
      Stage.runAll here settings model toolchain later) := by
  induction first with
  | nil => simp [Stage.runAll]
  | cons stage rest ih => simp [Stage.runAll, ih]

/-- The two ways in which a run of stages ends. -/
theorem runAll_ends {failBindings failBuild : Bool} (unslashed : model.Unslashed)
    (stages : List Stage) (nodup : stages.Nodup) (known : List (List String))
    (placed : Stage.Placed known stages) {progress final : Progress} {result : Except Error Unit}
    (inside : progress.disk.entryAt here = some .directory)
    (sites : ∀ within ∈ known, progress.disk.Site here
      ((model.directory settings.outputPath).within within) (within.reverse ++ root))
    (plain : Plain root model stages progress.disk)
    (ran : (Stage.runAll here settings model (.standIn failBindings failBuild)
      stages).run.run progress = (result, final)) :
    (result = .ok () ∧
      Reached here root settings model stages (fun _ => False) progress.disk final.disk ∧
      final.requests = progress.requests ++ stages.flatMap (Stage.requests settings model)) ∨
    ∃ done failing rest error, stages = done ++ failing :: rest ∧ result = .error error ∧
      error.step? = some failing.step ∧
      Reached here root settings model done (failing.Residue root model) progress.disk final.disk ∧
      final.requests =
        progress.requests ++ (done ++ [failing]).flatMap (Stage.requests settings model) := by
  induction stages generalizing progress known with
  | nil =>
    cases ran
    exact .inl ⟨rfl, ⟨.refl _ _, by simp⟩, by simp⟩
  | cons stage stages ih =>
    obtain ⟨fresh, nodup⟩ := List.nodup_cons.1 nodup
    rw [Stage.runAll, Run.run_bind] at ran
    rcases first : (stage.run here settings model
      (.standIn failBindings failBuild)).run.run progress with ⟨outcome, middle⟩
    rw [first] at ran
    obtain ⟨ends, requests⟩ := stage.run_ends unslashed (sites _ placed.1)
      (plain.undisturbed fun _ place => ⟨stage, List.mem_cons_self, place⟩) first
    rcases ends with ⟨rfl, changes, done⟩ | ⟨error, rfl, step, residue⟩
    · have sites' : ∀ within ∈ stage.makes ++ known, middle.disk.Site here
          ((model.directory settings.outputPath).within within) (within.reverse ++ root) := by
        intro within member
        rcases List.mem_append.1 member with made | old
        · cases stage with
          | folder f =>
            obtain rfl := List.mem_singleton.1 made
            simpa [Stage.Done, Path.within] using done
          | _ => simp [Stage.makes] at made
        · exact (sites within old).changes changes
      rcases ih nodup _ placed.2 (changes.directory _ inside) sites' (plain.rest fresh changes) ran
        with ⟨rfl, reached, requests'⟩ | ⟨done', failing, rest, error, shape, eq, step, reached,
          requests'⟩
      · refine .inl ⟨rfl, reached.cons changes done inside plain fresh (List.Subset.refl _)
          (by simp), ?_⟩
        rw [requests', requests, List.flatMap_cons, List.append_assoc]
      · refine .inr ⟨stage :: done', failing, rest, error, by rw [shape]; rfl, eq, step,
          reached.cons changes done inside plain fresh ?_ ?_, ?_⟩
        · rw [shape]
          exact List.subset_append_left _ _
        · intro location left
          exact ⟨failing, by simp [shape], residue_places left⟩
        · rw [requests', requests, List.cons_append, List.flatMap_cons, List.append_assoc]
    · cases ran
      refine .inr ⟨[], stage, stages, error, rfl, rfl, step, ⟨residue.mono fun _ => .inr, by simp⟩,
        ?_⟩
      simpa using requests

end ModelForge.Compile
