import ModelForge.Compile.Pipeline
import ModelForge.Proofs.Model.Names
import ModelForge.Proofs.Path.Between
import ModelForge.Proofs.Source.Generated

/-! The way from a generated tree back to the directory that the compilation runs in: as a path, as
the text that a definition is given, and as the dependency that the manifest states with it. -/
namespace ModelForge.Compile

open Source (Context Kind Stretch)
open Source.Defaults (coreDirectory manifestStretches wayText)
open Template.Filter (quote)

/-- What the definitions are given when the path of the working directory is this one. -/
def contextIn (workingDirectory : Path) (settings : Settings) (model : Model) : Context :=
  ⟨model, settings.mode, settings.toolchainVersion, wayBack settings model workingDirectory⟩

/-- The directory that a model owns, seen from the root. -/
def rootedDirectory (workingDirectory : Path) (settings : Settings) (model : Model) : Path :=
  workingDirectory.join (model.directory settings.outputPath)

/-- The manifest by the definition that comes with the program. -/
def defaultManifest (context : Context) : Except Template.Error String :=
  Template.render Kind.manifest.definitionFile Kind.manifest.defaultDefinition context.bindings

theorem relativePath_value {context : Context} {s : String} (way : wayText context = s) :
    context.compilerValue.part? "relative_path" = some (.text s) :=
  congrArg (fun s => some (Template.Value.text s)) way

/-- The place of a manifest that names the library of every model. -/
def coreEntry (path : String) : String :=
  "\n[dependencies]\nconfig-model-core = \x7b path = " ++ quote path ++ " \x7d\n"

section

variable {workingDirectory : Path} (settings : Settings) (model : Model)

theorem wayBack_eq (workingDirectory : Path) : wayBack settings model workingDirectory =
    Path.between (rootedDirectory workingDirectory settings model) workingDirectory := by
  unfold wayBack rootedDirectory
  dsimp only
  split
  · rename_i own
    rw [Path.join, if_pos (.inl own)]
  · rfl

theorem wayBack_leads (absolute : workingDirectory.isAbsolute = true) :
    (wayBack settings model workingDirectory).text ≠ "" ∧
      (rootedDirectory workingDirectory settings model).LeadsTo
        (wayBack settings model workingDirectory).text (Location.follow [] workingDirectory) := by
  have rooted : (rootedDirectory workingDirectory settings model).isAbsolute = true :=
    Path.isAbsolute_join_of_isAbsolute absolute _
  rw [wayBack_eq]
  exact ⟨Path.between_nonempty rooted absolute, Path.between_leads rooted absolute⟩

theorem manifestDependencies_eq : ∃ before,
    Source.Defaults.manifestDependencies =
      before ++ "\n[dependencies]\nconfig-model-core = \x7b path = " := by
  refine ⟨"\npath = \"src/lib.rs\"\ncrate-type = [\"cdylib\", \"rlib\"]\n", ?_⟩
  unfold Source.Defaults.manifestDependencies
  decide

set_option maxRecDepth 10000 in
theorem manifestEnding_eq : ∃ after, Source.Defaults.manifestEnding = " \x7d\n" ++ after := by
  refine ⟨"serde = \x7b version = \"1\", features = [\"derive\"] \x7d\nserde_json = \"1\"\n\n" ++
    "# Keeps the generated crate out of any enclosing workspace.\n[workspace]\n", ?_⟩
  unfold Source.Defaults.manifestEnding
  decide

/-- Whatever the context, the library of every model has its place in the manifest. -/
theorem exists_coreEntry (context : Context) : ∃ before after,
    Stretch.join (manifestStretches context) =
      before ++ coreEntry (wayText context ++ coreDirectory) ++ after := by
  obtain ⟨before, dependencies⟩ := manifestDependencies_eq
  obtain ⟨after, ending⟩ := manifestEnding_eq
  obtain ⟨front, shape⟩ : ∃ front, manifestStretches context = front ++
      [.code Source.Defaults.manifestDependencies, .quoted (wayText context ++ coreDirectory),
        .code Source.Defaults.manifestEnding] :=
    ⟨(manifestStretches context).take 13, rfl⟩
  refine ⟨Stretch.join front ++ before, after, ?_⟩
  rw [shape, Stretch.join_append, Stretch.join_cons, Stretch.join_cons, Stretch.join_cons,
    Stretch.text, Stretch.text, Stretch.text, dependencies, ending]
  unfold coreEntry
  simp only [String.append_assoc, Stretch.join, List.map_nil, String.join_nil, String.append_empty]

/-- A model without modules. -/
def router : Model := ⟨"router", "1.0", []⟩

/-- Settings with this output path. -/
def outputAt (text : String) : Settings := { outputPath := ⟨text⟩ }

/-- What stands between quotes in the manifest of a model that is compiled in `/w`. -/
def routerValues : List String :=
  ["router_1_0", "1.75", "router", "1.0", "module", "router_1_0", "../../config-model-core"]

theorem mem_routerValues {s : String}
    (member : .quoted s ∈ manifestStretches (contextIn ⟨"/w"⟩ (outputAt "out") router)) :
    s ∈ routerValues := by
  have way : wayText (contextIn ⟨"/w"⟩ (outputAt "out") router) ++ coreDirectory =
      "../../config-model-core" := by decide
  have safe : router.safeName = "router_1_0" := by decide
  have library : router.libraryName = "router_1_0" := by decide
  simp only [manifestStretches, way, List.mem_cons, reduceCtorEq, Stretch.quoted.injEq,
    List.not_mem_nil, false_or, or_false] at member
  simp only [contextIn, safe, library] at member
  simpa [routerValues, outputAt, router, Mode.text] using member

end

end ModelForge.Compile
