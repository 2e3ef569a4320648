import ModelForge.Proofs.Source.EntryPoint
import ModelForge.Proofs.Template.Verbatim

/-! Every default definition is rendered, whatever the context. Four of them are nothing but texts
and variables, so what they are rendered to is their own text with the values of the variables in
it. The mode matters to the manifest and to the root of the library only. -/
namespace ModelForge.Source.Defaults

open Template.Phrase (Dotted)
open Template.Verbatim (isVerbatim substituted)

/-- The names in a context that mean texts, but for the one of the mode. -/
def modelessNames : List Dotted := [
  Given.name, Given.version, Given.safeName, Given.libraryName, Given.toolchain,
  Given.relativePath, Given.package, Given.symbol, Given.program]

def textNames : List Dotted := Given.mode :: modelessNames

theorem among_textNames (context : Context) :
    ∀ name ∈ textNames, ∃ s, name.among context.bindings = some (.text s) := by
  simp only [textNames, modelessNames, List.forall_mem_cons]
  exact ⟨⟨_, rfl⟩, ⟨_, rfl⟩, ⟨_, rfl⟩, ⟨_, rfl⟩, ⟨_, rfl⟩, ⟨_, rfl⟩, ⟨_, rfl⟩, ⟨_, rfl⟩, ⟨_, rfl⟩,
    ⟨_, rfl⟩, by simp⟩

theorem among_modelessNames (context : Context) (mode : Mode) : ∀ name ∈ modelessNames,
    name.among { context with mode := mode }.bindings = name.among context.bindings := by
  simp only [modelessNames, List.forall_mem_cons]
  exact ⟨rfl, rfl, rfl, rfl, rfl, rfl, rfl, rfl, rfl, by simp⟩

theorem manifest_isVerbatim : isVerbatim textNames manifest.toList = true := by
  simp only [manifest, String.toList_join, List.flatMap_cons, List.flatMap_nil]
  repeat rw [String.toList_ofList]
  decide +kernel

/-- The definitions that hold neither a choice nor a loop, nor ask for the mode. -/
def modelessKinds : List Kind := [.unmarshaller, .validator, .plugin]

theorem modeless_isVerbatim :
    ∀ kind ∈ modelessKinds, isVerbatim modelessNames kind.defaultDefinition.toList = true := by
  simp only [modelessKinds, List.forall_mem_cons, Kind.defaultDefinition]
  refine ⟨?_, ?_, ?_, by simp⟩
  all_goals
    simp only [unmarshaller, validator, plugin, String.toList_join, List.flatMap_cons,
      List.flatMap_nil]
    repeat rw [String.toList_ofList]
    decide +kernel

theorem render_modeless (context : Context) {kind : Kind} (modeless : kind ∈ modelessKinds) :
    ∃ text, substituted context.bindings kind.defaultDefinition.toList = some text ∧
      Template.render kind.definitionFile kind.defaultDefinition context.bindings = .ok text :=
  Template.Verbatim.render_substituted (modeless_isVerbatim kind modeless) fun name member =>
    among_textNames context name (List.mem_cons_of_mem _ member)

theorem substituted_modeless (context : Context) (mode : Mode) {kind : Kind}
    (modeless : kind ∈ modelessKinds) :
    substituted { context with mode := mode }.bindings kind.defaultDefinition.toList =
      substituted context.bindings kind.defaultDefinition.toList :=
  Template.Verbatim.substituted_congr (modeless_isVerbatim kind modeless)
    (among_modelessNames context mode)

/-- A default definition is rendered in any context. Without choices and loops it is copied with
the values in it, and nothing but the manifest and the root of the library tells the modes apart. -/
theorem defaults_rendered (context : Context) :
    (∀ kind : Kind, ∃ text, Template.render kind.definitionFile kind.defaultDefinition
      context.bindings = .ok text) ∧
    (∀ kind ∈ [Kind.manifest, .unmarshaller, .validator, .plugin], ∃ text,
      substituted context.bindings kind.defaultDefinition.toList = some text ∧
        Template.render kind.definitionFile kind.defaultDefinition context.bindings = .ok text) ∧
    ∀ kind ∈ [Kind.model, .unmarshaller, .validator, .plugin], ∀ mode,
      Template.render kind.definitionFile kind.defaultDefinition
          { context with mode := mode }.bindings =
        Template.render kind.definitionFile kind.defaultDefinition context.bindings := by
  have verbatim : ∀ kind ∈ [Kind.manifest, .unmarshaller, .validator, .plugin], ∃ text,
      substituted context.bindings kind.defaultDefinition.toList = some text ∧
        Template.render kind.definitionFile kind.defaultDefinition context.bindings =
          .ok text := by
    refine List.forall_mem_cons.2 ⟨?_, fun kind => render_modeless context⟩
    exact Template.Verbatim.render_substituted manifest_isVerbatim (among_textNames context)
  refine ⟨fun kind => ?_, verbatim, ?_⟩
  · cases kind with
    | entryPoint => exact ⟨_, render_entryPoint context⟩
    | model => exact ⟨_, render_model context⟩
    | manifest => exact (verbatim .manifest (by decide)).imp fun _ => And.right
    | unmarshaller => exact (verbatim .unmarshaller (by decide)).imp fun _ => And.right
    | validator => exact (verbatim .validator (by decide)).imp fun _ => And.right
    | plugin => exact (verbatim .plugin (by decide)).imp fun _ => And.right
  · refine List.forall_mem_cons.2 ⟨fun mode => ?_, fun kind modeless mode => ?_⟩
    · rw [render_model, render_model]
    · obtain ⟨text, printed, rendered⟩ := render_modeless context modeless
      obtain ⟨other, printed', rendered'⟩ := render_modeless { context with mode := mode } modeless
      rw [substituted_modeless context mode modeless, printed] at printed'
      rw [rendered, rendered', Option.some.inj printed']

end ModelForge.Source.Defaults
