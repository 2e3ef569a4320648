import ModelForge.Disk.Operation
import ModelForge.Source.Context
import ModelForge.Source.Kind
import ModelForge.Template.Rendering

/-! Generating a file from a definition on a disk. Everything that can go wrong with the
definition shows before the target is touched. -/
namespace ModelForge.Source

inductive RenderError where
  | notFound (path : Path)
  | template (error : Template.Error)
  | io (path : Path) (fault : Fault)

namespace RenderError

def message : RenderError → String
  | notFound path => s!"template definition not found at {path}"
  | template error => "template engine error: " ++ error.message
  | io path fault => s!"template io error at {path}: {fault.message}"

/-- Whether the definition is to blame, and not the disk. -/
def isTemplateError : RenderError → Bool
  | io _ _ => false
  | _ => true

end RenderError

/-- The text that a definition makes of a context. -/
def renderText (disk : Disk) (here : Location) (kind : Kind) (definition : Path)
    (context : Context) : Except RenderError String :=
  if disk.isFile here definition then
    match disk.readText here definition with
    | .error fault => .error (.io definition fault)
    | .ok source =>
      match Template.render kind.definitionFile source context.bindings with
      | .error error => .error (.template error)
      | .ok text => .ok text
  else .error (.notFound definition)

/-- Writes that text to a file, in place of what it held. -/
def renderFile (disk : Disk) (here : Location) (kind : Kind) (definition : Path)
    (context : Context) (target : Path) : Except RenderError Disk :=
  match renderText disk here kind definition context with
  | .error error => .error error
  | .ok text =>
    match disk.write here target text.toUTF8 with
    | .error fault => .error (.io target fault)
    | .ok disk => .ok disk

end ModelForge.Source
