import ModelForge.Proofs.Compile.Containment
import ModelForge.Proofs.Compile.Repeat
import ModelForge.Proofs.Disk.Agreement

/-! Two runs of the stages side by side, one of them in a directory in which there have been runs
before. Where the one succeeds the other does, and both leave the same. -/
namespace ModelForge.Compile

open Disk

section Views

variable {settings : Settings} {model : Model} {stage : Stage} {rest : List Stage} {e d : View}
  {content : ByteArray}

/-- If a stage succeeds on the second view it succeeds on the first and leaves the same. -/
def Stage.Alike (settings : Settings) (model : Model) (stage : Stage) (e d : View) : Prop :=
  ∀ content, (stage.effect settings model content d).1 = true →
    (stage.effect settings model content e).1 = true ∧
      ∀ below, stage.Owns model below → (stage.effect settings model content e).2 below =
        (stage.effect settings model content d).2 below

theorem Stage.Alike.congr {e' d' : View} (alike : stage.Alike settings model e d)
    (left : ∀ below, stage.Owns model below → e' below = e below)
    (right : ∀ below, stage.Owns model below → d' below = d below) :
    stage.Alike settings model e' d' := by
  intro content succeeds
  obtain ⟨first, same⟩ := Stage.effect_congr settings content left
  obtain ⟨first', same'⟩ := Stage.effect_congr settings content right
  obtain ⟨done, leaves⟩ := alike content (first'.symm.trans succeeds)
  exact ⟨first.trans done, fun below owns => by
    rw [same below owns, same' below owns, leaves below owns]⟩

/-- The second view differs from the first only where some stages are still to be run, and the
difference will not matter to them. -/
structure Lags (settings : Settings) (model : Model) (pending : List Stage) (e d : View) :
    Prop where
  same : ∀ below, (∀ stage ∈ pending, ¬stage.Owns model below) → e below = d below
  alike : ∀ stage ∈ pending, stage.Alike settings model e d

theorem Lags.refl (settings : Settings) (model : Model) (pending : List Stage) (view : View) :
    Lags settings model pending view view :=
  ⟨fun _ _ => rfl, fun _ _ _ succeeds => ⟨succeeds, fun _ _ => rfl⟩⟩

/-- One more stage on the second view, of a run that may come to nothing. -/
theorem Lags.rerun (lags : Lags settings model Stage.all e d) (unslashed : model.Unslashed)
    (neutral : settings.copyPolicy = .overwrite → ∀ m ∈ model.modules,
      Neutral (View.pair d m.fileName).staged) :
    Lags settings model Stage.all e (stage.effect settings model content d).2 where
  same below elsewhere := by
    rw [Stage.effect_frame (elsewhere stage (Stage.mem_all stage))]
    exact lags.same below elsewhere
  alike other member := by
    by_cases own : other = stage
    · subst own
      intro second succeeds
      have again := Stage.effect_again unslashed neutral succeeds
      rw [again] at succeeds ⊢
      exact lags.alike other member second succeeds
    · refine (lags.alike other member).congr (fun _ _ => rfl) fun below owns => ?_
      exact Stage.effect_frame fun owns' => own (Stage.owns_unique owns owns')

/-- The next stage on both views. -/
theorem Lags.step (lags : Lags settings model (stage :: rest) e d) (fresh : stage ∉ rest)
    (succeeds : (stage.effect settings model content d).1 = true) :
    (stage.effect settings model content e).1 = true ∧
      Lags settings model rest (stage.effect settings model content e).2
        (stage.effect settings model content d).2 := by
  obtain ⟨done, leaves⟩ := lags.alike stage List.mem_cons_self content succeeds
  refine ⟨done, fun below elsewhere => ?_, fun other member => ?_⟩
  · by_cases own : stage.Owns model below
    · exact leaves below own
    · rw [Stage.effect_frame own, Stage.effect_frame own]
      refine lags.same below fun other member => ?_
      rcases List.mem_cons.1 member with rfl | member
      · exact own
      · exact elsewhere other member
  · have apart : ∀ {view : View} below, other.Owns model below →
        (stage.effect settings model content view).2 below = view below := fun below owns =>
      Stage.effect_frame fun owns' => fresh (Stage.owns_unique owns owns' ▸ member)
    exact (lags.alike other (List.mem_cons_of_mem _ member)).congr apart apart

end Views

variable {here root : Location} {settings : Settings} {model : Model}
  {failBindings failBuild : Bool} {progress final : Progress} {result : Except Error Unit}
  {stage : Stage} {known : List (List String)}

/-- The directories that have been made so far can be worked in. -/
def Sites (here root : Location) (settings : Settings) (model : Model) (disk : Disk)
    (known : List (List String)) : Prop :=
  ∀ within ∈ known, disk.Site here ((model.directory settings.outputPath).within within)
    (within.reverse ++ root)

theorem sites_of_site {disk : Disk}
    (site : disk.Site here (model.directory settings.outputPath) root) :
    Sites here root settings model disk [[]] := by
  intro within member
  obtain rfl := List.mem_singleton.1 member
  exact site

/-- After a stage that has succeeded there is the directory that it makes. -/
theorem Sites.after {places : Location → Prop}
    (sites : Sites here root settings model progress.disk known) (placed : stage.within ∈ known)
    (changes : Changes places progress.disk final.disk)
    (ran : (stage.run here settings model (.standIn failBindings failBuild)).run.run progress =
      (.ok (), final)) :
    Sites here root settings model final.disk (stage.makes ++ known) := by
  intro within member
  rcases List.mem_append.1 member with made | old
  · cases stage with
    | folder f =>
      obtain rfl := List.mem_singleton.1 made
      rcases (folder_ends (sites _ placed) ran).1 with ⟨-, -, done⟩ | ⟨error, failed, -⟩
      · simpa [Stage.Done, Path.within] using done
      · cases failed
    | _ => simp [Stage.makes] at made
  · exact (sites within old).changes changes

/-- The directories that can be worked in after some stages. -/
def Stage.made (known : List (List String)) (stages : List Stage) : List (List String) :=
  stages.foldl (fun known stage => stage.makes ++ known) known

theorem Stage.placed_append {known : List (List String)} {first later : List Stage} :
    Stage.Placed known (first ++ later) ↔
      Stage.Placed known first ∧ Stage.Placed (Stage.made known first) later := by
  induction first generalizing known with
  | nil => simp [Stage.Placed, Stage.made]
  | cons stage rest ih => simp [Stage.Placed, Stage.made, ih, and_assoc]

/-- What every stage keeps is kept by a run of stages, however it ends. If it succeeds, the next
stages have directories to work in. -/
theorem runAll_induct (Good : Disk → Prop) (stages : List Stage)
    (known : List (List String)) (placed : Stage.Placed known stages)
    (sites : Sites here root settings model progress.disk known)
    (acts : ∀ stage ∈ stages, ∀ {progress result final},
      progress.disk.Site here (stage.base settings model) (stage.within.reverse ++ root) →
      (stage.run here settings model (.standIn failBindings failBuild)).run.run progress =
        (result, final) →
      stage.Acts here root settings model failBindings failBuild progress result final)
    (step : ∀ stage ∈ stages, ∀ {progress result final},
      stage.Acts here root settings model failBindings failBuild progress result final →
        Good progress.disk → Good final.disk)
    (good : Good progress.disk)
    (ran : (Stage.runAll here settings model (.standIn failBindings failBuild)
      stages).run.run progress = (result, final)) :
    Good final.disk ∧ (result = .ok () →
      Sites here root settings model final.disk (Stage.made known stages)) := by
  induction stages generalizing progress known with
  | nil =>
    cases ran
    exact ⟨good, fun _ => sites⟩
  | cons stage rest ih =>
    rw [Stage.runAll, Run.run_bind] at ran
    rcases first : (stage.run here settings model
      (.standIn failBindings failBuild)).run.run progress with ⟨outcome, middle⟩
    rw [first] at ran
    have own := acts stage List.mem_cons_self (sites _ placed.1) first
    have good' := step stage List.mem_cons_self own good
    cases outcome with
    | error error =>
      cases ran
      exact ⟨good', by simp⟩
    | ok =>
      exact ih _ placed.2 (sites.after placed.1 own.changes first)
        (fun other member => acts other (List.mem_cons_of_mem _ member))
        (fun other member => step other (List.mem_cons_of_mem _ member)) good' ran

/-- What holds on the way to every definition can be checked place by place. -/
theorem forall_definition_iff {P : Location → Prop} :
    (∀ (kind : Source.Kind) place,
      here.OnTheWay (kind.definitionPath settings.templatePath) place → P place) ↔
      ∀ kind ∈ Source.Kind.all,
        ∀ lead ∈ (kind.definitionPath settings.templatePath).components.inits,
          lead ≠ [] → P (lead.foldl Location.step here) := by
  constructor
  · intro every kind _ lead leading some
    exact every kind _ ⟨lead, some, List.mem_inits _ _ |>.1 leading, rfl⟩
  · rintro checked kind _ ⟨lead, some, leading, rfl⟩
    exact checked kind (by cases kind <;> decide) lead ((List.mem_inits _ _).2 leading) some

/-- The definitions of a run are read from outside the directory of the model, and no path to them
leads through it. -/
def DefinedOutside (here root : Location) (settings : Settings) : Prop :=
  ∀ (kind : Source.Kind) place,
    here.OnTheWay (kind.definitionPath settings.templatePath) place → ¬root.Inside place

/-- What a stage is to write is the same for both runs. -/
theorem Stage.text_agree {a b : Disk} (stage : Stage) (model : Model)
    (failBindings failBuild : Bool) (free : a.LinkFree)
    (standing : b.entryAt here = a.entryAt here)
    (outside : ∀ location, ¬root.Inside location → b.entryAt location = a.entryAt location)
    (defined : DefinedOutside here root settings) :
    stage.text here settings model failBindings failBuild b =
      stage.text here settings model failBindings failBuild a := by
  cases stage with
  | source kind =>
    simp only [Stage.text]
    rw [Source.renderText_agree _ ⟨standing, fun place way => outside place
      (defined kind place way)⟩ free]
  | _ => rfl

theorem Stage.not_places_of_outside {location : Location} (outside : ¬root.Inside location) :
    ¬stage.Places model root location := by
  rintro ⟨below, owns, rfl⟩
  exact outside ⟨below, Stage.owns_ne_nil owns, rfl⟩

/-- If the run that comes later succeeds, so does the first one, and it ends in the same way. -/
theorem runAll_lockstep (unslashed : model.Unslashed) (stages : List Stage)
    (nodup : stages.Nodup) (known : List (List String)) (placed : Stage.Placed known stages)
    (defined : DefinedOutside here root settings) {e d : Progress} (free : e.disk.LinkFree)
    (left : Sites here root settings model e.disk known)
    (right : Sites here root settings model d.disk known)
    (asked : e.requests = d.requests) (said : e.printed = d.printed)
    (outside : ∀ location, ¬root.Inside location →
      d.disk.entryAt location = e.disk.entryAt location)
    (lags : Lags settings model stages (e.disk.view root) (d.disk.view root))
    (ran : (Stage.runAll here settings model (.standIn failBindings failBuild)
      stages).run.run d = (.ok (), final)) :
    (Stage.runAll here settings model (.standIn failBindings failBuild) stages).run.run e =
      (.ok (), final) := by
  induction stages generalizing e d known with
  | nil =>
    have same : e.disk = d.disk := by
      apply ext_entryAt
      intro location
      by_cases inside : root.Inside location
      · obtain ⟨below, -, rfl⟩ := inside
        exact lags.same below (by simp)
      · exact (outside location inside).symm
    have equal : e = d := by
      obtain ⟨_, _, _⟩ := e
      obtain ⟨_, _, _⟩ := d
      cases same
      cases asked
      cases said
      rfl
    rw [equal]
    exact ran
  | cons stage rest ih =>
    obtain ⟨fresh, nodup⟩ := List.nodup_cons.1 nodup
    rw [Stage.runAll, Run.run_bind] at ran ⊢
    rcases second : (stage.run here settings model
      (.standIn failBindings failBuild)).run.run d with ⟨outcome, d'⟩
    rcases first : (stage.run here settings model
      (.standIn failBindings failBuild)).run.run e with ⟨outcome', e'⟩
    rw [second] at ran
    obtain ⟨error⟩ | ⟨⟨⟩⟩ := outcome
    · cases ran
    have acts := Stage.run_acts unslashed (right _ placed.1) second
    have acts' := Stage.run_acts unslashed (left _ placed.1) first
    have standing : d.disk.entryAt here = e.disk.entryAt here :=
      (right _ placed.1).inside.trans (left _ placed.1).inside.symm
    have texts := stage.text_agree model failBindings failBuild free standing outside
      defined
    have effect := acts.effect
    have effect' := acts'.effect
    rw [texts] at effect
    cases text : stage.text here settings model failBindings failBuild e.disk with
    | error error =>
      rw [text] at effect
      cases effect.1
    | ok text' =>
      rw [text] at effect effect'
      have succeeds : (stage.effect settings model text'.toUTF8 (d.disk.view root)).1 = true :=
        (congrArg Prod.fst effect).symm
      obtain ⟨done, lags'⟩ := lags.step fresh succeeds
      rw [← effect, ← effect'] at lags'
      rw [← effect'] at done
      obtain ⟨error⟩ | ⟨⟨⟩⟩ := outcome'
      · cases done
      refine ih nodup _ placed.2 (acts'.changes.linkFree free)
        (left.after placed.1 acts'.changes first) (right.after placed.1 acts.changes second) ?_ ?_ ?_
        lags' ran
      · rw [acts.requests, acts'.requests, asked]
      · rw [acts.printed, acts'.printed, said]
      · intro location elsewhere
        rw [acts.changes.frame location (Stage.not_places_of_outside elsewhere),
          acts'.changes.frame location (Stage.not_places_of_outside elsewhere),
          outside location elsewhere]

end ModelForge.Compile
