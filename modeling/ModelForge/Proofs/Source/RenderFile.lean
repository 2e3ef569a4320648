import ModelForge.Proofs.Action
import ModelForge.Proofs.Disk.Overwrite
import ModelForge.Proofs.Source.Render

/-! Making a file from a definition, step by step. Whatever goes wrong, the disk is the one from
before; and when nothing does, the target holds the text that the definition was made into on that
disk, and nothing else has changed. -/
namespace ModelForge.Source

variable {disk new : Disk} {here : Location} {kind : Kind} {definition target : Path}
  {context : Context} {result : Except RenderError Unit}

/-- Looks for the definition, reads it, renders it and writes the target, on whatever disk the
steps before have left. -/
def renderInSteps (disk : Disk) (here : Location) (kind : Kind) (definition : Path)
    (context : Context) (target : Path) : Except RenderError Unit × Disk :=
  match renderText disk here kind definition context with
  | .error error => (.error error, disk)
  | .ok text =>
    match disk.overwrite here target text.toUTF8 with
    | (.error fault, left) => (.error (.io target fault), left)
    | (.ok (), left) => (.ok (), left)

theorem renderInSteps_eq (disk : Disk) (here : Location) (kind : Kind) (definition : Path)
    (context : Context) (target : Path) :
    renderInSteps disk here kind definition context target =
      match renderFile disk here kind definition context target with
      | .error error => (.error error, disk)
      | .ok new => (.ok (), new) := by
  unfold renderInSteps renderFile
  cases renderText disk here kind definition context with
  | error error => rfl
  | ok text =>
    simp only [Disk.overwrite_eq]
    cases disk.write here target text.toUTF8 <;> rfl

/-- What can go wrong, with the error that tells of it. -/
inductive Cause (disk : Disk) (here : Location) (kind : Kind) (definition : Path)
    (context : Context) (target : Path) : RenderError → Prop where
  | missing (noFile : disk.isFile here definition = false) :
      Cause disk here kind definition context target (.notFound definition)
  | unreadable {fault : Fault} (isFile : disk.isFile here definition = true)
      (unread : disk.readText here definition = .error fault) :
      Cause disk here kind definition context target (.io definition fault)
  | faulty {source : String} {error : Template.Error} (isFile : disk.isFile here definition = true)
      (read : disk.readText here definition = .ok source)
      (failed : Template.render kind.definitionFile source context.bindings = .error error) :
      Cause disk here kind definition context target (.template error)
  | unwritable {text : String} {fault : Fault}
      (rendered : renderText disk here kind definition context = .ok text)
      (unwritten : disk.write here target text.toUTF8 = .error fault) :
      Cause disk here kind definition context target (.io target fault)

theorem renderFile_error_iff {error : RenderError} :
    renderFile disk here kind definition context target = .error error ↔
      Cause disk here kind definition context target error := by
  constructor
  · intro failed
    unfold renderFile at failed
    split at failed
    · rename_i error' unrendered
      cases failed
      unfold renderText at unrendered
      split at unrendered
      · rename_i isFile
        split at unrendered
        · cases unrendered
          exact .unreadable isFile ‹_›
        · split at unrendered <;> cases unrendered
          exact .faulty isFile ‹_› ‹_›
      · cases unrendered
        exact .missing (Bool.eq_false_iff.2 ‹_›)
    · rename_i text rendered
      split at failed <;> cases failed
      exact .unwritable rendered ‹_›
  · intro cause
    cases cause with
    | missing noFile => simp [renderFile, renderText, noFile]
    | unreadable isFile unread => simp [renderFile, renderText, isFile, unread]
    | faulty isFile read failed => simp [renderFile, renderText, isFile, read, failed]
    | unwritable rendered unwritten => simp only [renderFile, rendered, unwritten]

/-- The definition is to blame when it is missing or cannot be rendered, and never for what reading
or writing runs into. -/
theorem Cause.isTemplateError_iff {error : RenderError}
    (cause : Cause disk here kind definition context target error) :
    error.isTemplateError = true ↔ disk.isFile here definition = false ∨
      ∃ source problem, disk.readText here definition = .ok source ∧
        Template.render kind.definitionFile source context.bindings = .error problem := by
  cases cause with
  | missing noFile => simp [RenderError.isTemplateError, noFile]
  | unreadable isFile unread => simp [RenderError.isTemplateError, isFile, unread]
  | faulty isFile read failed => simp [RenderError.isTemplateError, read, failed]
  | unwritable rendered unwritten =>
    have isFile := isFile_of_renderText rendered
    simp only [renderText, isFile, if_true] at rendered
    split at rendered
    · cases rendered
    · rename_i source read
      split at rendered <;> cases rendered
      rename_i fine
      simp [RenderError.isTemplateError, isFile, read, fine]

theorem renderFile_eq_ok (done : renderFile disk here kind definition context target = .ok new) :
    ∃ text, renderText disk here kind definition context = .ok text ∧
      disk.write here target text.toUTF8 = .ok new := by
  unfold renderFile at done
  split at done
  · cases done
  · rename_i text rendered
    split at done <;> cases done
    exact ⟨text, rendered, ‹_›⟩

section Samples

/-- A directory with a definition in it, and another entry. -/
def definitionDisk (name : String) (entry : Entry) : Disk :=
  ((Disk.empty.put "w" [] .directory).put "d" ["w"] (.file "x".toUTF8 false)).put name ["w"] entry

def sampleContext : Context := ⟨⟨"m", "1", []⟩, .loadable, "1.75", ⟨"."⟩⟩

/-- A rendering onto that entry. -/
def renderOnto (name : String) (entry : Entry) : Except RenderError Unit × Disk :=
  renderInSteps (definitionDisk name entry) ["w"] .plugin ⟨"d"⟩ sampleContext ⟨name⟩

end Samples

end ModelForge.Source
