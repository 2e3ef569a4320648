import ModelForge.Proofs.Compile.Failure

/-! What a compilation leaves in a directory that it has made itself: exactly the layout. Links may
lie elsewhere on the disk, also on the way to the directory. -/
namespace ModelForge

namespace Disk

variable {disk new : Disk} {here : Location} {path : Path}

/-- A path names a place in a directory that is there, and nothing is at that place. -/
def Vacant (disk : Disk) (here : Location) (path : Path) : Prop :=
  ∃ name parent, disk.reachName here path = .ok (.plain name parent) ∧
    disk.entryAt (name :: parent) = none

theorem Fresh.below {root : Location} (fresh : disk.Fresh root) {below : Location}
    (nonempty : below ≠ []) : disk.entryAt (below ++ root) = none := by
  induction below with
  | nil => exact absurd rfl nonempty
  | cons name rest ih =>
    by_cases last : rest = []
    · rw [last]
      exact fresh.bare name
    · exact entryAt_child_eq_none (ih last) name

theorem ensureDirectory_of_vacant (vacant : disk.Vacant here path) :
    ∃ root new, disk.ensureDirectory here path = (.ok (), new) ∧ Made here path disk new root := by
  obtain ⟨name, parent, named, absent⟩ := vacant
  have made : disk.makeDirectory here path = .ok (disk.put name parent .directory) := by
    simp [makeDirectory, create, named, absent]
  have nonempty := isEmpty_of_clean (reachName_eq_plain named).1
  obtain ⟨root, spec⟩ := makeDirectory_eq_ok made
  refine ⟨root, _, ?_, spec⟩
  unfold ensureDirectory
  simp [nonempty, made]

theorem Made.site {root : Location} (made : Made here path disk new root)
    (inside : new.entryAt here = some .directory) : new.Site here path root where
  inside := inside
  clean := made.clean
  reaches := made.reaches
  standing := made.fresh.directory
  unlinked below target := by
    by_cases own : below = []
    · simp [own, made.fresh.directory]
    · simp [made.fresh.below own]

end Disk

namespace Compile

open Disk

/-- Everything in the directory of a model after it has been compiled there for the first time. -/
structure Layout (settings : Settings) (model : Model) (texts : Source.Kind → String)
    (root : Location) (disk : Disk) : Prop where
  directories : ∀ below ∈ [["src"], ["plugin", "src"], ["yang"]],
    disk.entryAt (below ++ root) = some .directory
  sources : ∀ kind : Source.Kind,
    disk.entryAt (kind.outputFile :: ((sourceWithin kind).reverse ++ root)) =
      some (.file (texts kind).toUTF8 false)
  bindings : disk.entryAt ("generated.rs" :: "plugin" :: "src" :: root) =
    some (.file "pub struct Device;\n".toUTF8 false)
  artifact : disk.entryAt (model.identity.artifactName :: root) =
    some (.file "fake artifact".toUTF8 false)
  schemas : ∀ name, disk.entryAt (name :: "yang" :: root) =
    (schemaData settings.copyPolicy model.modules name).map fun data => .file data false
  nothingElse : ∀ below, below ≠ [] → disk.entryAt (below ++ root) ≠ none →
    below ∈ [["src"], ["plugin", "src"], ["yang"], ["generated.rs", "plugin", "src"],
        [model.identity.artifactName]] ∨
      (∃ kind : Source.Kind, below = kind.outputFile :: (sourceWithin kind).reverse) ∨
      ∃ name, below = [name, "yang"]

theorem Stage.owns_listed {model : Model} {stage : Stage} {below : Location}
    (owns : stage.Owns model below) :
    below ∈ [["src"], ["plugin", "src"], ["yang"], ["generated.rs", "plugin", "src"],
        [model.identity.artifactName]] ∨
      (∃ kind : Source.Kind, below = kind.outputFile :: (sourceWithin kind).reverse) ∨
      ∃ name, below = [name, "yang"] := by
  cases stage with
  | folder f =>
    rw [Stage.Owns] at owns
    rw [owns]
    cases f <;> exact .inl (by simp [Folder.name, Folder.within])
  | source kind => exact .inr (.inl ⟨kind, owns⟩)
  | schemas =>
    obtain ⟨m, -, rfl | rfl⟩ := owns
    · exact .inr (.inr ⟨m.fileName, rfl⟩)
    · exact .inr (.inr ⟨stagedName m.fileName, rfl⟩)
  | bindings | build =>
    rw [Stage.Owns] at owns
    exact .inl (by simp [owns])

theorem schemaData_eq_none {policy : CopyPolicy} {modules : List SchemaModule} {name : String}
    (other : ∀ m ∈ modules, m.fileName ≠ name) : schemaData policy modules name = none := by
  cases policy <;> simpa [schemaData] using other

variable {here root : Location} {settings : Settings} {model : Model} {two new : Disk}

/-- When every stage is done in a new directory, the layout is there. A schema file holds what the
order of the modules says, and what was staged beside it is gone. -/
theorem layout_of_reached
    (fresh : two.Fresh root)
    (reached : Reached here root settings model Stage.all (fun _ => False) two new)
    (texts : Source.Kind → String)
    (wrote : ∀ kind : Source.Kind, Wrote
      (kind.outputFile :: ((sourceWithin kind).reverse ++ root)) (texts kind).toUTF8 two new) :
    Layout settings model texts root new := by
  have vacant : ∀ {stage : Stage} {location}, stage.Places model root location →
      two.entryAt location = none := by
    rintro stage _ ⟨below, owns, rfl⟩
    exact fresh.below (Stage.owns_ne_nil owns)
  have done := fun stage => reached.done stage (Stage.mem_all stage)
  have untouched : ∀ below, below ≠ [] → (∀ stage : Stage, ¬stage.Owns model below) →
      new.entryAt (below ++ root) = none := by
    intro below nonempty elsewhere
    rw [reached.changes.frame, fresh.below nonempty]
    rintro (⟨stage, -, place⟩ | never)
    · exact elsewhere stage (Stage.places_append_iff.1 place)
    · exact never
  constructor
  case directories =>
    intro below member
    simp only [List.mem_cons, List.not_mem_nil, or_false] at member
    rcases member with rfl | rfl | rfl
    · exact (done (.folder .source)).standing
    · exact (done (.folder .package)).standing
    · exact (done (.folder .schema)).standing
  case sources => exact fun kind => (wrote kind).2 (vacant (Stage.places_source model root kind))
  case bindings => exact (done .bindings).2 (vacant (Stage.places_bindings model root))
  case artifact => exact (done .build).2 (vacant (Stage.places_artifact model root))
  case schemas =>
    intro name
    have settled : Settled ("yang" :: root) model.modules
        (schemaData settings.copyPolicy model.modules) new :=
      done .schemas
        ⟨fun m member => vacant (Stage.places_schema member root),
          fun m member => vacant (Stage.places_staged member root)⟩
    by_cases named : ∃ m ∈ model.modules, m.fileName = name
    · obtain ⟨m, member, rfl⟩ := named
      exact settled.file m member
    rw [schemaData_eq_none fun m member same => named ⟨m, member, same⟩]
    by_cases staged : ∃ m ∈ model.modules, stagedName m.fileName = name
    · obtain ⟨m, member, rfl⟩ := staged
      exact settled.staged m member
    refine untouched [name, "yang"] (by simp) fun stage owns => ?_
    obtain ⟨m, member, same | same⟩ := Stage.owns_schema owns
    · exact named ⟨m, member, same.symm⟩
    · exact staged ⟨m, member, same.symm⟩
  case nothingElse =>
    intro below nonempty present
    by_cases owned : ∃ stage : Stage, stage.Owns model below
    · obtain ⟨stage, owns⟩ := owned
      exact Stage.owns_listed owns
    · exact absurd (untouched below nonempty fun stage owns => owned ⟨stage, owns⟩) present

/-- What there is in the directory of a model that had none, after it was compiled. The texts are
those that the definitions make. -/
theorem compile_layout {failBindings failBuild : Bool} {disk : Disk} {made : Artifact}
    {final : Progress} (unslashed : model.Unslashed)
    (vacant : (disk.ensureDirectory here settings.outputPath).2.Vacant here
      (model.directory settings.outputPath))
    (compiled : compile here settings (.standIn failBindings failBuild) model disk =
      (.ok made, final)) :
    ∃ root texts, final.disk.locate here (model.directory settings.outputPath) = .ok root ∧
      final.disk.entryAt root = some .directory ∧
      (∀ kind, Rendered here settings model kind disk final.disk (texts kind)) ∧
      Layout settings model texts root final.disk := by
  generalize outcome : (Except.ok made : Except Error Artifact) = ended at compiled
  cases compile_course compiled with
  | refused | noRoot | noDirectory => cases outcome
  | @ran one two result _ ensured directory stages =>
    rw [ensured] at vacant
    obtain ⟨root, two', made', isMade⟩ := ensureDirectory_of_vacant vacant
    obtain rfl : two' = two := congrArg Prod.snd (made'.symm.trans directory)
    have inside : two'.entryAt here = some .directory := by
      by_contra outside
      rw [runAll_outside outside] at stages
      cases stages
      cases outcome
    have site := isMade.site inside
    have plain : Plain root model Stage.all two' := .inr fun stage _ location place => by
      obtain ⟨below, owns, rfl⟩ := place
      exact isMade.fresh.below (Stage.owns_ne_nil owns)
    rcases stages_end unslashed plain (fun _ => site) stages with
      ⟨-, reached, -⟩ | ⟨done, failing, rest, error, -, rfl, -⟩
    · have site' := site.changes reached.changes
      have sources : ∀ kind : Source.Kind, ∃ text,
          Rendered here settings model kind disk final.disk text ∧
            Wrote (kind.outputFile :: ((sourceWithin kind).reverse ++ root)) text.toUTF8 two'
              final.disk := by
        intro kind
        obtain ⟨text, rendered, wrote⟩ := reached.done _ (Stage.mem_all (.source kind))
        exact ⟨text, (rendered.adds isMade.adds).adds (ensureDirectory_spec ensured).1, wrote⟩
      choose texts rendered wrote using sources
      exact ⟨root, texts, locate_eq_ok_iff.2 ⟨site'.clean, site'.reaches⟩, site'.standing, rendered,
        layout_of_reached isMade.fresh reached texts wrote⟩
    · cases outcome

set_option maxRecDepth 10000 in
theorem compile_layout_sample :
    sampleModel.Unslashed ∧
    ((sampleDisk Source.Kind.all).ensureDirectory ["w"] (sampleSettings "o").outputPath).2.Vacant
      ["w"] (sampleModel.directory (sampleSettings "o").outputPath) ∧
    ∃ root texts, Layout (sampleSettings "o") sampleModel texts root
      (sampleRun "o" sampleModel (sampleDisk Source.Kind.all)).2.disk := by
  have unslashed : sampleModel.Unslashed := by decide
  have vacant : ((sampleDisk Source.Kind.all).ensureDirectory ["w"]
      (sampleSettings "o").outputPath).2.Vacant ["w"]
      (sampleModel.directory (sampleSettings "o").outputPath) :=
    ⟨"m_1", ["o", "w"], by decide +kernel, by decide +kernel⟩
  have ran := ran_of_summary sampleRun_summary
  obtain ⟨root, texts, -, -, -, layout⟩ := compile_layout unslashed vacant ran
  exact ⟨unslashed, vacant, root, texts, layout⟩

/-- Nothing is at the place of the directory, a compilation is successful, and a name of the output
path is in the directory. -/
def Detours (output name : String) : Prop :=
  (sampleDisk Source.Kind.all).entryAt
      (Location.follow ["w"] (sampleModel.directory ⟨output⟩)) = none ∧
    (sampleDisk Source.Kind.all).pathExists ["w"] (sampleModel.directory ⟨output⟩) = false ∧
    summary (sampleRun output sampleModel (sampleDisk Source.Kind.all)).1 =
      .ok (artifact (sampleSettings output) sampleModel) ∧
    (sampleRun output sampleModel (sampleDisk Source.Kind.all)).2.disk.entryAt
      (name :: Location.follow ["w"] (sampleModel.directory ⟨output⟩)) = some .directory

instance (output name : String) : Decidable (Detours output name) :=
  inferInstanceAs (Decidable (_ ∧ _))

set_option maxRecDepth 10000 in
/-- A directory that the output path leads through is made before the directory of the model is,
and can lie in it. -/
theorem compile_layout_detour :
    sampleModel.validate = .ok () ∧ sampleModel.Unslashed ∧ Detours "m_1/foo/../.." "foo" ∧
    ∀ texts, ¬Layout (sampleSettings "m_1/foo/../..") sampleModel texts
      (Location.follow ["w"] (sampleModel.directory ⟨"m_1/foo/../.."⟩))
      (sampleRun "m_1/foo/../.." sampleModel (sampleDisk Source.Kind.all)).2.disk := by
  have detours : Detours "m_1/foo/../.." "foo" := by decide +kernel
  refine ⟨by decide, by decide, detours, fun texts layout => ?_⟩
  have present : (sampleRun "m_1/foo/../.." sampleModel (sampleDisk Source.Kind.all)).2.disk.entryAt
      (["foo"] ++ Location.follow ["w"] (sampleModel.directory ⟨"m_1/foo/../.."⟩)) ≠ none := by
    simp [detours.2.2.2]
  rcases layout.nothingElse ["foo"] (by decide) present with own | ⟨kind, own⟩ | ⟨name, own⟩
  · exact absurd own (by decide)
  · cases kind <;> exact absurd own (by decide)
  · exact absurd own (by simp)

end Compile

end ModelForge
