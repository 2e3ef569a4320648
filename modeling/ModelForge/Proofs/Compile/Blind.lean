import ModelForge.Proofs.Compile.Filled
import ModelForge.Proofs.Compile.Kept
import ModelForge.Proofs.Disk.Shape

/-! The data of the modules are copied and never looked at. Two models that differ in nothing but
these data are compiled step by step in the same way, and the disks that they leave differ in nothing
but what the schema files hold. Only a device that has no room tells some data from none. -/
namespace ModelForge

def SchemaModule.withoutData (m : SchemaModule) : SchemaModule := { m with data := .empty }

/-- All that a compilation takes from a model but the data that it copies. -/
def Model.withoutData (model : Model) : Model :=
  { model with modules := model.modules.map SchemaModule.withoutData }

theorem Model.validateModules_withoutData (name : String) (index : Nat) (seen : List Identity)
    (modules : List SchemaModule) :
    validateModules name index seen (modules.map SchemaModule.withoutData) =
      validateModules name index seen modules := by
  induction modules generalizing index seen with
  | nil => rfl
  | cons m rest ih =>
    rw [List.map_cons, validateModules, validateModules, ih]
    rfl

theorem Model.validate_withoutData (model : Model) :
    model.withoutData.validate = model.validate := by
  simp only [validate, withoutData, validateModules_withoutData]

theorem Source.Context.modelValue_withoutData (model : Model) :
    modelValue model.withoutData = modelValue model := by
  simp only [modelValue, Model.withoutData, List.map_map]
  rfl

theorem Source.Context.bindings_withoutData (context : Source.Context) :
    bindings { context with model := context.model.withoutData } = context.bindings := by
  simp only [bindings, modelValue_withoutData]
  rfl

theorem Source.renderFile_withoutData (disk : Disk) (here : Location) (kind : Kind)
    (definition : Path) (context : Context) (target : Path) :
    renderFile disk here kind definition { context with model := context.model.withoutData } target =
      renderFile disk here kind definition context target := by
  simp only [renderFile, renderText, Context.bindings_withoutData]

namespace Compile

open Disk Stage

variable {here root : Location} {settings : Settings} {a b model : Model} {toolchain : Toolchain}

theorem directory_withoutData (model : Model) (output : Path) :
    model.withoutData.directory output = model.directory output := rfl

theorem artifact_withoutData (model : Model) :
    artifact settings model.withoutData = artifact settings model := rfl

theorem wayBack_withoutData (model : Model) (from' : Path) :
    wayBack settings model.withoutData from' = wayBack settings model from' := by
  unfold wayBack
  rw [directory_withoutData]

theorem context_withoutData (model : Model) : context here settings model.withoutData =
    { context here settings model with model := (context here settings model).model.withoutData } := by
  simp only [context, wayBack_withoutData]

theorem generate_withoutData (model : Model) (kind : Source.Kind) :
    generate here settings model.withoutData kind = generate here settings model kind := by
  have target : kind.target settings.outputPath model.withoutData =
      kind.target settings.outputPath model := by
    cases kind <;> rfl
  simp only [generate, target, context_withoutData, Source.renderFile_withoutData]

theorem copyModules_withoutData (model : Model) (modules : List SchemaModule) :
    copyModules here settings model.withoutData modules = copyModules here settings model modules := by
  induction modules with
  | nil => rfl
  | cons m rest ih =>
    rw [copyModules, copyModules, ih]
    rfl

theorem bindingRequest_withoutData (model : Model) :
    bindingRequest settings model.withoutData = bindingRequest settings model := by
  simp only [bindingRequest, Model.withoutData, List.map_map]
  rfl

theorem Stage.run_withoutData {stage : Stage} (other : stage ≠ schemas) (model : Model) :
    stage.run here settings model.withoutData toolchain = stage.run here settings model toolchain := by
  cases stage with
  | schemas => exact absurd rfl other
  | folder f => rfl
  | source kind => exact generate_withoutData model kind
  | bindings => exact congrArg (perform here toolchain) (bindingRequest_withoutData model)
  | build => rfl

theorem runAll_withoutData {stages : List Stage} (other : schemas ∉ stages) (model : Model) :
    runAll here settings model.withoutData toolchain stages =
      runAll here settings model toolchain stages := by
  induction stages with
  | nil => rfl
  | cons stage rest ih =>
    rw [List.mem_cons, not_or] at other
    rw [runAll, runAll, run_withoutData (Ne.symm other.1), ih other.2]

/-- Two courses that have asked and printed the same, on disks of one shape. -/
structure Progress.Shaped (loose : Location → Prop) (p q : Progress) : Prop where
  requests : q.requests = p.requests
  printed : q.printed = p.printed
  disk : SameShape loose p.disk q.disk

/-- The ends of two runs: one outcome, and disks of one shape. -/
def EndShaped {α : Type} (loose : Location → Prop) (x y : α × Progress) : Prop :=
  y.1 = x.1 ∧ x.2.Shaped loose y.2

theorem EndShaped.bind {α β : Type} {loose : Location → Prop} {p q : Progress} {first first' : Run α}
    {next next' : α → Run β} (shaped : EndShaped loose (first.run.run p) (first'.run.run q))
    (then_ : ∀ value {p' q'}, first.run.run p = (.ok value, p') → p'.Shaped loose q' →
      EndShaped loose ((next value).run.run p') ((next' value).run.run q')) :
    EndShaped loose ((first >>= next).run.run p) ((first' >>= next').run.run q) := by
  rw [Run.run_bind, Run.run_bind]
  rcases left : first.run.run p with ⟨outcome, p'⟩
  rcases right : first'.run.run q with ⟨outcome', q'⟩
  rw [left, right] at shaped
  obtain ⟨outcomes, same⟩ := shaped
  obtain rfl : outcome' = outcome := outcomes
  cases outcome' with
  | error error => exact ⟨rfl, same⟩
  | ok value => exact then_ value left same

section Schemas

variable {loose : Location → Prop} {c d new : Disk} {base : Path} {name : String}
  {policy : CopyPolicy} {data data' : ByteArray} {result : Except Error SchemaWrite}

theorem discard_shaped (same : SameShape loose c d) (site : c.Site here base root)
    (isName : Path.IsName name) :
    SameShape loose (discard c here (base.child name)) (discard d here (base.child name)) := by
  unfold discard
  rcases (unlink_shaped same site isName).ends with
    ⟨fault, failed, failed'⟩ | ⟨c', d', unlinked, unlinked', same'⟩
  · rw [failed, failed']
    exact same
  · rw [unlinked, unlinked']
    exact same'

theorem writeSchema_shaped (same : SameShape loose c d) (site : c.Site here base root)
    (isName : Path.IsName name) (loosened : ∀ name, loose (name :: root)) (policy : CopyPolicy)
    (room : c.entryAt (stagedName name :: root) = some (.device .full) →
      data.isEmpty = data'.isEmpty) :
    (writeSchema d here policy (base.child name) data').1 =
        (writeSchema c here policy (base.child name) data).1 ∧
      SameShape loose (writeSchema c here policy (base.child name) data).2
        (writeSchema d here policy (base.child name) data').2 := by
  have isStaged := isName_stagedName isName.unslashed
  have written := write_shaped same site isStaged room fun tight => absurd (loosened _) tight
  unfold writeSchema
  rw [pathExists_shaped same site isName, stagingPath_child base isName.nonempty]
  by_cases skips : policy = .skipExisting ∧ c.pathExists here (base.child name) = true
  · rw [if_pos skips, if_pos skips]
    exact ⟨rfl, same⟩
  rw [if_neg skips, if_neg skips]
  dsimp only
  rcases written.ends with ⟨fault, failed, failed'⟩ | ⟨c', d', wrote, wrote', staged⟩
  · rw [failed, failed']
    exact ⟨rfl, same⟩
  rw [wrote, wrote']
  have site := site.changes (site.write_changes isStaged wrote).1
  dsimp only
  rcases (rename_shaped staged site isStaged isName (loosened _)).ends with
    ⟨fault, failed, failed'⟩ | ⟨c'', d'', renamed, renamed', moved⟩
  · rw [failed, failed']
    exact ⟨rfl, discard_shaped staged site isStaged⟩
  · rw [renamed, renamed']
    exact ⟨rfl, moved⟩

/-- A device that is found where data were staged was there before. -/
theorem device_of_discard (site : c.Site here base root) (isName : Path.IsName name) {kind : Device}
    (device : (discard c here (base.child name)).entryAt (name :: root) = some (.device kind)) :
    c.entryAt (name :: root) = some (.device kind) := by
  unfold discard at device
  split at device
  · rename_i unlinked
    simp [(site.unlink isName unlinked).2] at device
  · exact device

theorem device_of_write (site : c.Site here base root) (isName : Path.IsName name)
    (written : c.write here (base.child name) data = .ok new) {kind : Device}
    (device : new.entryAt (name :: root) = some (.device kind)) :
    c.entryAt (name :: root) = some (.device kind) := by
  rcases site.write isName written with ⟨rfl, -⟩ | ⟨executable, rfl, before⟩
  · exact device
  · have canPut : c.CanPut name root := by
      refine ⟨site.standing, ?_⟩
      rcases before with ⟨absent, -⟩ | ⟨old, found⟩
      · simp [absent]
      · simp [found]
    simp [entryAt_put canPut] at device

theorem device_of_writeSchema (m other : SchemaModule) (site : c.Site here base root)
    (isName : Path.IsName m.fileName)
    (wrote : writeSchema c here policy (base.child m.fileName) data = (result, new)) {kind : Device}
    (device : new.entryAt (stagedName other.fileName :: root) = some (.device kind)) :
    c.entryAt (stagedName other.fileName :: root) = some (.device kind) := by
  have isStaged := isName_stagedName isName.unslashed
  have staging := stagingPath_child base isName.nonempty
  by_cases same : other.fileName = m.fileName
  · rw [same] at device ⊢
    cases writeSchema_course wrote with
    | skipped | notStaged => exact device
    | moved goes written renamed =>
      rw [staging] at written renamed
      have site := site.changes (site.write_changes isStaged written).1
      simp [(site.rename isStaged isName (stagedName_ne _) renamed).2.2.1] at device
    | notMoved written =>
      rw [staging] at written device
      have site' := site.changes (site.write_changes isStaged written).1
      exact device_of_write site isStaged written (device_of_discard site' isStaged device)
  · have elsewhere : ¬SchemaPlace root m.fileName (stagedName other.fileName :: root) := by
      rintro (eq | eq)
      · exact fileName_ne_stagedName m other.fileName (List.cons.inj eq).1.symm
      · exact same (stagedName_injective (List.cons.inj eq).1)
    rw [← (writeSchema_changes site isName wrote).frame _ elsewhere]
    exact device

/-- The modules of two models, each with its counterpart, are copied in step. -/
theorem copyModules_shaped (pairs : List (SchemaModule × SchemaModule)) {p q : Progress}
    (twins : ∀ pair ∈ pairs, pair.2.fileName = pair.1.fileName)
    (isName : ∀ pair ∈ pairs, Path.IsName pair.1.fileName)
    (same : p.Shaped loose q) (loosened : ∀ name, loose (name :: root))
    (site : p.disk.Site here (model.schemaDirectory settings.outputPath) root)
    (room : ∀ pair ∈ pairs,
      p.disk.entryAt (stagedName pair.1.fileName :: root) = some (.device .full) →
        pair.1.data.isEmpty = pair.2.data.isEmpty) :
    EndShaped loose ((copyModules here settings model (pairs.map Prod.fst)).run.run p)
      ((copyModules here settings model (pairs.map Prod.snd)).run.run q) := by
  induction pairs generalizing p q with
  | nil => exact ⟨rfl, same⟩
  | cons pair rest ih =>
    obtain ⟨m, m'⟩ := pair
    have named := isName _ List.mem_cons_self
    have file : m'.fileName = m.fileName := twins (m, m') List.mem_cons_self
    obtain ⟨outcomes, disks⟩ := writeSchema_shaped same.disk site named loosened
      settings.copyPolicy (room _ List.mem_cons_self)
    rw [List.map_cons, List.map_cons, run_copyModules_cons, run_copyModules_cons,
      Model.schemaFile, Model.schemaFile, file]
    rcases wrote : writeSchema p.disk here settings.copyPolicy
      ((model.schemaDirectory settings.outputPath).child m.fileName) m.data with ⟨outcome, c⟩
    rcases wrote' : writeSchema q.disk here settings.copyPolicy
      ((model.schemaDirectory settings.outputPath).child m.fileName) m'.data with ⟨outcome', d⟩
    rw [wrote, wrote'] at outcomes disks
    obtain rfl : outcome' = outcome := outcomes
    have same' : Progress.Shaped loose { p with disk := c } { q with disk := d } :=
      ⟨same.requests, same.printed, disks⟩
    cases outcome' with
    | error error => exact ⟨rfl, same'⟩
    | ok outcome =>
      have later := fun (other : SchemaModule × SchemaModule) (member : other ∈ rest) =>
        List.mem_cons_of_mem (m, m') member
      have site' := site.changes (writeSchema_changes site named wrote)
      refine ih (fun other member => twins other (later other member))
        (fun other member => isName other (later other member)) same' site'
        fun other member device => ?_
      exact room other (later other member)
        (device_of_writeSchema m other.1 site named wrote device)

end Schemas

section Stages

variable {loose : Location → Prop} {p q : Progress} {stage : Stage} (failBindings failBuild : Bool)

/-- The tools write texts of their own. -/
theorem Stage.run_shaped (tool : stage = bindings ∨ stage = build) (unslashed : model.Unslashed)
    (same : p.Shaped loose q)
    (site : p.disk.Site here (stage.base settings model) (stage.within.reverse ++ root)) :
    EndShaped loose
      ((stage.run here settings model (.standIn failBindings failBuild)).run.run p)
      ((stage.run here settings model (.standIn failBindings failBuild)).run.run q) := by
  have siteQ := site.changes same.disk.changes
  have text : stage.text here settings model failBindings failBuild q.disk =
      stage.text here settings model failBindings failBuild p.disk := by
    rcases tool with rfl | rfl <;> rfl
  obtain ⟨name, named⟩ : ∃ name, stage.name? model = some name := by
    rcases tool with rfl | rfl <;> exact ⟨_, rfl⟩
  have notFolder : ∀ f, stage ≠ folder f := by
    rcases tool with rfl | rfl <;> simp
  have requests : q.requests ++ stage.requests settings model =
      p.requests ++ stage.requests settings model := by rw [same.requests]
  rw [Stage.run_file named notFolder site.inside, Stage.run_file named notFolder siteQ.inside, text]
  cases stage.text here settings model failBindings failBuild p.disk with
  | error error => exact ⟨rfl, requests, same.printed, same.disk⟩
  | ok text =>
    dsimp only
    rcases (write_shaped same.disk site (Stage.isName_name unslashed.identity named)
      (fun _ => rfl) fun _ => rfl).ends with
      ⟨fault, failed, failed'⟩ | ⟨c, d, wrote, wrote', same'⟩
    · rw [failed, failed']
      exact ⟨rfl, requests, same.printed, same.disk⟩
    · rw [wrote, wrote']
      exact ⟨rfl, requests, same.printed, same'⟩

theorem runAll_shaped (unslashed : model.Unslashed) (stages : List Stage)
    (tools : ∀ stage ∈ stages, stage = bindings ∨ stage = build) (known : List (List String))
    (placed : Stage.Placed known stages) (same : p.Shaped loose q)
    (sites : Sites here root settings model p.disk known) :
    EndShaped loose
      ((runAll here settings model (.standIn failBindings failBuild) stages).run.run p)
      ((runAll here settings model (.standIn failBindings failBuild) stages).run.run q) := by
  induction stages generalizing p q known with
  | nil => exact ⟨rfl, same⟩
  | cons stage rest ih =>
    have site := sites _ placed.1
    refine (Stage.run_shaped failBindings failBuild (tools stage List.mem_cons_self) unslashed same
      site).bind fun _ {_ _} ran same' => ?_
    exact ih (fun other member => tools other (List.mem_cons_of_mem _ member)) _ placed.2 same'
      (sites.after placed.1 (Stage.run_acts unslashed site ran).changes ran)

end Stages

/-- Modules that differ in their data alone stand side by side. -/
theorem zip_counterparts {xs ys : List SchemaModule}
    (alike : ys.map SchemaModule.withoutData = xs.map SchemaModule.withoutData) :
    (xs.zip ys).map Prod.fst = xs ∧ (xs.zip ys).map Prod.snd = ys ∧
      ∀ pair ∈ xs.zip ys, pair.2.withoutData = pair.1.withoutData := by
  have lengths : ys.length = xs.length := by simpa using congrArg List.length alike
  have left := List.map_fst_zip lengths.ge
  have right := List.map_snd_zip lengths.le
  refine ⟨left, right, List.map_inj_left.1 ?_⟩
  calc (xs.zip ys).map (SchemaModule.withoutData ∘ Prod.snd)
      = ys.map SchemaModule.withoutData := by rw [← List.map_map, right]
    _ = xs.map SchemaModule.withoutData := alike
    _ = (xs.zip ys).map (SchemaModule.withoutData ∘ Prod.fst) := by rw [← List.map_map, left]

section Compilation

variable {loose : Location → Prop} {p q : Progress} (failBindings failBuild : Bool)
  (alike : b.withoutData = a.withoutData) (unslashed : a.Unslashed)
  (loosened : ∀ name, loose (name :: "yang" :: root))
include alike unslashed loosened

/-- The one stage that takes the data. -/
theorem schemas_shaped (same : p.Shaped loose q)
    (site : p.disk.Site here (Stage.base settings a schemas) ("yang" :: root))
    (room : ∀ pair ∈ a.modules.zip b.modules,
      p.disk.entryAt (stagedName pair.1.fileName :: "yang" :: root) = some (.device .full) →
        pair.1.data.isEmpty = pair.2.data.isEmpty) :
    EndShaped loose
      ((schemas.run here settings a (.standIn failBindings failBuild)).run.run p)
      ((schemas.run here settings b (.standIn failBindings failBuild)).run.run q) := by
  obtain ⟨left, right, counterparts⟩ := zip_counterparts (congrArg Model.modules alike)
  have loop : schemas.run here settings b (.standIn failBindings failBuild) =
      copyModules here settings a b.modules := by
    rw [Stage.run, ← copyModules_withoutData b, alike, copyModules_withoutData]
  rw [base_schemas] at site
  rw [loop, ← right, Stage.run]
  nth_rewrite 1 [← left]
  refine copyModules_shaped _ ?_ ?_ same loosened site room
  · intro pair member
    have names := congrArg SchemaModule.fileName (counterparts pair member)
    exact names
  · exact fun pair member =>
      SchemaModule.isName_fileName (unslashed.modules _ (List.of_mem_zip member).1)

theorem stages_shaped {two : Disk} (site : two.Site here (a.directory settings.outputPath) root)
    (room : ∀ pair ∈ a.modules.zip b.modules,
      two.entryAt (stagedName pair.1.fileName :: "yang" :: root) = some (.device .full) →
        pair.1.data.isEmpty = pair.2.data.isEmpty) :
    EndShaped loose
      ((runAll here settings a (.standIn failBindings failBuild) all).run.run ⟨two, [], {}⟩)
      ((runAll here settings b (.standIn failBindings failBuild) all).run.run ⟨two, [], {}⟩) := by
  have blind {stages : List Stage} (other : schemas ∉ stages) :
      runAll here settings b (.standIn failBindings failBuild) stages =
        runAll here settings a (.standIn failBindings failBuild) stages := by
    rw [← runAll_withoutData other b, alike, runAll_withoutData other a]
  have shape : all = early ++ schemas :: [bindings, build] := rfl
  have start : EndShaped loose
      ((runAll here settings a (.standIn failBindings failBuild) early).run.run ⟨two, [], {}⟩)
      ((runAll here settings b (.standIn failBindings failBuild) early).run.run ⟨two, [], {}⟩) := by
    rw [blind (by decide)]
    exact ⟨rfl, rfl, rfl, .refl _ _⟩
  rw [shape, runAll_append, runAll_append]
  refine start.bind fun _ {p q} ran same => ?_
  obtain ⟨left, sites⟩ : (∀ location, schemas.Places a root location →
      p.disk.entryAt location = two.entryAt location) ∧ _ :=
    runAll_elsewhere unslashed (by decide) placed_early (sites_of_site site) ran
  have sites := sites rfl
  rw [made_early] at sites
  have inside : p.disk.Site here (Stage.base settings a schemas) ("yang" :: root) :=
    sites ["yang"] (by decide)
  refine (schemas_shaped failBindings failBuild alike unslashed loosened same inside ?_).bind
    fun _ {p' q'} ran same => ?_
  · intro pair member device
    rw [left _ (places_staged (List.of_mem_zip member).1 root)] at device
    exact room pair member device
  · rw [blind (by decide)]
    exact runAll_shaped failBindings failBuild unslashed _ (by simp) _
      (by simp [Stage.Placed, Stage.within, Stage.makes]) same
      (sites.after (by decide) (Stage.run_acts unslashed inside ran).changes ran)

end Compilation

/-- A device that is found after directories have been made was there before. -/
theorem device_of_adds {allowed : Location → Prop} {old new : Disk} (adds : Adds allowed old new)
    {location : Location} {kind : Device} (device : new.entryAt location = some (.device kind)) :
    old.entryAt location = some (.device kind) := by
  rcases adds location with same | ⟨-, made, -⟩
  · rwa [← same]
  · simp [made] at device

section Compilation

variable {failBindings failBuild : Bool} {disk : Disk}

theorem compile_shaped (alike : b.withoutData = a.withoutData) (unslashed : a.Unslashed)
    (free : disk.LinkFree)
    (room : ∀ pair ∈ a.modules.zip b.modules,
      disk.entryAt (stagedName pair.1.fileName ::
        here.follow (a.schemaDirectory settings.outputPath)) = some (.device .full) →
        pair.1.data.isEmpty = pair.2.data.isEmpty) :
    EndShaped (here.follow (a.schemaDirectory settings.outputPath)).Inside
      (compile here settings (.standIn failBindings failBuild) a disk)
      (compile here settings (.standIn failBindings failBuild) b disk) := by
  have accepted : b.validate = a.validate := by
    rw [← b.validate_withoutData, alike, a.validate_withoutData]
  have directory : b.directory settings.outputPath = a.directory settings.outputPath := by
    rw [← directory_withoutData b, alike, directory_withoutData]
  have made : artifact settings b = artifact settings a := by
    rw [← artifact_withoutData b, alike, artifact_withoutData]
  cases valid : a.validate with
  | error cause =>
    rw [valid] at accepted
    rw [compile, compile, valid, accepted]
    exact ⟨rfl, rfl, rfl, .refl _ _⟩
  | ok =>
    rw [valid] at accepted
    rcases root : disk.ensureDirectory here settings.outputPath with ⟨fault | ⟨⟩, one⟩
    · rw [compile_noRoot valid root, compile_noRoot accepted root]
      exact ⟨rfl, rfl, rfl, .refl _ _⟩
    rcases below : one.ensureDirectory here (a.directory settings.outputPath) with ⟨fault | ⟨⟩, two⟩
    · have below' := below
      rw [← directory] at below'
      rw [compile_noDirectory valid root below, compile_noDirectory accepted root below', directory]
      exact ⟨rfl, rfl, rfl, .refl _ _⟩
    have below' := below
    rw [← directory] at below'
    rw [compile_eq_stages valid root below, compile_eq_stages accepted root below', made]
    have shaped : EndShaped (here.follow (a.schemaDirectory settings.outputPath)).Inside
        ((runAll here settings a (.standIn failBindings failBuild) all).run.run ⟨two, [], {}⟩)
        ((runAll here settings b (.standIn failBindings failBuild) all).run.run ⟨two, [], {}⟩) := by
      by_cases inside : two.entryAt here = some .directory
      · obtain ⟨adds, -⟩ := ensureDirectory_spec root
        obtain ⟨adds', there⟩ := ensureDirectory_spec below
        have nonempty := settings.outputPath.isEmpty_child (Model.isName_safeName unslashed.identity)
        have site := site_of_isDirectory (adds'.linkFree (adds.linkFree free)) inside
          (there rfl nonempty)
        rw [follow_schemaDirectory] at room ⊢
        refine stages_shaped failBindings failBuild alike unslashed
          (Location.inside_child _) site fun pair member device => ?_
        exact room pair member (device_of_adds adds (device_of_adds adds' device))
      · rw [runAll_outside inside, runAll_outside inside]
        exact ⟨rfl, rfl, rfl, .refl _ _⟩
    exact ⟨congrArg (Except.map fun _ => artifact settings a) shaped.1, shaped.2⟩

end Compilation

/-- A model with data in its first module and none in its second. -/
def halfFilled (data : String) : Model :=
  ⟨"m", "1", [⟨"c", "1", none, data.toUTF8⟩, ⟨"a", "1", none, .empty⟩]⟩

end Compile

end ModelForge
