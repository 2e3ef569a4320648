import ModelForge.Proofs.Source.Defaults

/-! The list of modules in the model file. It has one entry for each module of the model, in the
order of the model, whatever the texts in them are. The organization is all that an entry does not
tell in full: the definition asks whether it is true, and the empty text is not. -/
namespace ModelForge.Source.Defaults

/-- How an entry gives an organization. -/
def organizationText : Option String → String
  | none => "None"
  | some name =>
    if name = "" then "None" else "Some(" ++ Template.Filter.quote name ++ ".to_string())"

/-- The entry of a module, with a text for its organization. -/
def entryWith (m : SchemaModule) (organization : String) : String :=
  moduleName ++ Template.Filter.quote m.name ++ moduleOrganization ++ organization ++
    moduleVersion ++ Template.Filter.quote m.version ++ moduleEnding

def entryText (m : SchemaModule) : String := entryWith m (organizationText m.organization)

/-- What comes before the entries. -/
def beforeEntries (model : Model) : String :=
  modelTitle ++ Template.Filter.quote model.name ++ modelRemark ++ modelName ++
    Template.Filter.quote model.name ++ modelVersion ++ Template.Filter.quote model.version ++
    modelModules

theorem join_organizationStretches (organization : Option String) :
    Stretch.join (organizationStretches organization) = organizationText organization := by
  cases organization with
  | none => simp [organizationStretches, organizationText, Stretch.join, Stretch.text]
  | some name =>
    by_cases unnamed : name = ""
    · simp [organizationStretches, organizationText, unnamed, Stretch.join, Stretch.text]
    · simp [organizationStretches, organizationText, unnamed, Stretch.join, Stretch.text,
        String.append_assoc]

theorem join_moduleStretches (m : SchemaModule) :
    Stretch.join (moduleStretches m) = entryText m := by
  rw [moduleStretches, Stretch.join_append, Stretch.join_append, join_organizationStretches]
  simp [Stretch.join, Stretch.text, entryText, entryWith, String.append_assoc]

theorem join_entries (modules : List SchemaModule) :
    Stretch.join (modules.flatMap moduleStretches) = String.join (modules.map entryText) := by
  induction modules with
  | nil => rfl
  | cons m rest ih =>
    rw [List.flatMap_cons, Stretch.join_append, join_moduleStretches, ih, List.map_cons,
      String.join_cons]

theorem join_modelStretches (model : Model) :
    Stretch.join (modelStretches model) =
      beforeEntries model ++ String.join (model.modules.map entryText) ++ modelEnding := by
  rw [modelStretches, Stretch.join_append, Stretch.join_append, join_entries]
  simp [Stretch.join, Stretch.text, beforeEntries, String.append_assoc]

/-- An organization with a name is told apart from none by the first letter of its text. -/
theorem organizationText_eq_none_iff {organization : Option String} :
    organizationText organization = "None" ↔ organization = none ∨ organization = some "" := by
  cases organization with
  | none => simp [organizationText]
  | some name =>
    by_cases unnamed : name = ""
    · simp [organizationText, unnamed]
    · have first : ("Some(" ++ Template.Filter.quote name ++ ".to_string())").toList.head? =
          some 'S' := by
        simp
      have apart : "Some(" ++ Template.Filter.quote name ++ ".to_string())" ≠ "None" := by
        intro same
        rw [same] at first
        exact absurd first (by decide)
      simp [organizationText, unnamed, apart]

def listOpening : String := "pub fn modules() -> Vec<ModuleInfo> \x7b\n    vec!["

def listEnding : String := "\n    ]\n\x7d\n"

theorem listOpening_suffix (model : Model) :
    listOpening.toList <:+ (beforeEntries model).toList := by
  have opened : listOpening.toList <:+ modelModules.toList := by
    unfold listOpening modelModules
    simp only [String.toList_append]
    repeat rw [String.toList_ofList]
    decide +kernel
  rw [beforeEntries, String.toList_append]
  exact opened.trans (List.suffix_append _ _)

theorem listEnding_prefix : listEnding.toList <+: modelEnding.toList := by
  unfold listEnding modelEnding
  simp only [String.toList_append]
  repeat rw [String.toList_ofList]
  decide +kernel

/-- The list of modules is the list of their entries, and an entry gives no organization exactly
when the module has none or one with an empty name. -/
theorem modules_listed (context : Context) :
    Template.render Kind.model.definitionFile Kind.model.defaultDefinition context.bindings =
        .ok (beforeEntries context.model ++ String.join (context.model.modules.map entryText) ++
          modelEnding) ∧
      listOpening.toList <:+ (beforeEntries context.model).toList ∧
      listEnding.toList <+: modelEnding.toList ∧
      ∀ m ∈ context.model.modules,
        (organizationText m.organization = "None" ↔
          m.organization = none ∨ m.organization = some "") ∧
        ∀ name, m.organization = some name → name ≠ "" →
          organizationText m.organization =
            "Some(" ++ Template.Filter.quote name ++ ".to_string())" := by
  refine ⟨by rw [render_model, join_modelStretches], listOpening_suffix _, listEnding_prefix,
    fun m _ => ⟨organizationText_eq_none_iff, fun name given named => ?_⟩⟩
  rw [given, organizationText, if_neg named]

/-- A module whose organization has an empty name. -/
def unnamedModule : SchemaModule := ⟨"a", "1", some "", ByteArray.empty⟩

def unnamedModel : Model := ⟨"m", "1", [unnamedModule]⟩

theorem modules_listed_unnamed :
    unnamedModel.validate = .ok () ∧
      Template.render Kind.model.definitionFile Kind.model.defaultDefinition
          (Context.mk unnamedModel .loadable "1.75" ⟨"../.."⟩).bindings =
        .ok (beforeEntries unnamedModel ++ entryWith unnamedModule "None" ++ modelEnding) ∧
      Template.render Kind.model.definitionFile Kind.model.defaultDefinition
          (Context.mk unnamedModel .loadable "1.75" ⟨"../.."⟩).bindings ≠
        .ok (beforeEntries unnamedModel ++
          entryWith unnamedModule ("Some(" ++ Template.Filter.quote "" ++ ".to_string())") ++
          modelEnding) := by
  have rendered : Template.render Kind.model.definitionFile Kind.model.defaultDefinition
      (Context.mk unnamedModel .loadable "1.75" ⟨"../.."⟩).bindings =
        .ok (beforeEntries unnamedModel ++ entryWith unnamedModule "None" ++ modelEnding) := by
    rw [render_model, join_modelStretches]
    simp [unnamedModel, entryText, unnamedModule, organizationText]
  refine ⟨rfl, rendered, fun other => ?_⟩
  have same := congrArg String.length (Except.ok.inj (rendered.symm.trans other))
  simp only [entryWith, String.length_append] at same
  have shorter : "None".length <
      "Some(".length + (Template.Filter.quote "").length + ".to_string())".length := by decide
  omega

end ModelForge.Source.Defaults
