import ModelForge.Proofs.Template.Running
import ModelForge.Source.Context
import ModelForge.Source.Kind

/-! What the definitions of the build manifest and of the model file make of a context: a file in
stretches, those that stand in every such file and those that hold a value between two quotes. -/
namespace ModelForge.Source

open Template (Part Scope Value)
open Template.Phrase (Dotted)

/-- A stretch of a generated file. -/
inductive Stretch where
  | code (s : String)
  | quoted (s : String)
  /-- A line that only a reader of the file is meant to see. -/
  | remark (s : String)

namespace Stretch

def text : Stretch → String
  | code s => s
  | quoted s => Template.Filter.quote s
  | remark s => s

def join (stretches : List Stretch) : String := String.join (stretches.map text)

theorem join_cons (first : Stretch) (rest : List Stretch) :
    join (first :: rest) = first.text ++ join rest := by
  simp [join]

theorem join_append (first rest : List Stretch) : join (first ++ rest) = join first ++ join rest := by
  simp [join]

end Stretch

namespace Defaults

section Names

def ofModel (part : String) (isPart : Template.Phrase.isWord part.toList = true) : Dotted :=
  ⟨"model", part, by decide, isPart, by rintro c ⟨⟩; decide⟩

def ofCompiler (part : String) (isPart : Template.Phrase.isWord part.toList = true) : Dotted :=
  ⟨"compiler", part, by decide, isPart, by rintro c ⟨⟩; decide⟩

def ofModule (part : String) (isPart : Template.Phrase.isWord part.toList = true) : Dotted :=
  ⟨"module", part, by decide, isPart, by rintro c ⟨⟩; decide⟩

/-! The names in a context that mean texts. -/

namespace Given

def name : Dotted := ofModel "name" (by decide)

def version : Dotted := ofModel "version" (by decide)

def safeName : Dotted := ofModel "safe_name" (by decide)

def libraryName : Dotted := ofModel "lib_name" (by decide)

def mode : Dotted := ofCompiler "mode" (by decide)

def toolchain : Dotted := ofCompiler "version" (by decide)

def relativePath : Dotted := ofCompiler "relative_path" (by decide)

def package : Dotted := ofCompiler "package" (by decide)

def symbol : Dotted := ofCompiler "symbol" (by decide)

def program : Dotted := ofCompiler "crate_version" (by decide)

end Given

/-- A value as it is. -/
def shown (name : Dotted) : Part := .print (Template.shownSlot name)

/-- A value between two quotes. -/
def quoted (name : Dotted) : Part := .print (Template.quotedSlot name)

variable {look : Template.Look} {cut : Bool} {name : Dotted} {s : String}

theorem filled_text (s : String) : (Part.text s.toList).filled look false = some s := by
  rw [Part.filled, if_neg (by simp), String.ofList_toList]

theorem filled_shown (means : look name = some (.text s)) : (shown name).filled look cut = some s := by
  rw [shown, Part.filled, Template.Phrase.Slot.filled]
  simp only [Template.shownSlot, means]

theorem filled_quoted (means : look name = some (.text s)) :
    (quoted name).filled look cut = some (Template.Filter.quote s) := by
  rw [quoted, Part.filled, Template.Phrase.Slot.filled]
  simp only [Template.quotedSlot, means, if_true]

theorem filledAll_nil (look : Template.Look) (cutEnd : Bool) :
    Part.filledAll look cutEnd [] = some "" := by
  rw [Part.filledAll]

theorem filledAll_cons {part : Part} {rest : List Part} {cutEnd : Bool} {first more : String}
    (one : part.filled look ((rest.head?.map Part.cutsBefore).getD cutEnd) = some first)
    (others : Part.filledAll look cutEnd rest = some more) :
    Part.filledAll look cutEnd (part :: rest) = some (first ++ more) := by
  rw [Part.filledAll, one, others]
  rfl

theorem among_model (context : Context) (part : String)
    (isPart : Template.Phrase.isWord part.toList = true) {value : Value}
    (field : (Context.modelValue context.model).part? part = some value) :
    (ofModel part isPart).among context.bindings = some value := field

theorem among_compiler (context : Context) (part : String)
    (isPart : Template.Phrase.isWord part.toList = true) {value : Value}
    (field : context.compilerValue.part? part = some value) :
    (ofCompiler part isPart).among context.bindings = some value := field

/-- What a module's fields are in a round of the loop over the modules. -/
theorem among_module (m : SchemaModule) (part : String)
    (isPart : Template.Phrase.isWord part.toList = true) {value : Value}
    (field : (Context.moduleValue m).part? part = some value) :
    (look.within "module" (Context.moduleValue m)) (ofModule part isPart) = some value := by
  have among : (ofModule part isPart).among [("module", Context.moduleValue m)] = some value := field
  have noLoop : (ofModule part isPart).owner ≠ "loop" := by
    show "module" ≠ "loop"
    decide
  rw [Template.Look.within, if_neg noLoop, among]
  rfl

/-- A text that a dash takes the line end from. -/
theorem filled_cut {c : Char} (last : s.toList.getLast? = some c) (ink : Text.isBlank c = false) :
    (Part.text (s ++ "\n").toList).filled look true = some s := by
  have trimmed : Text.trimRight (s ++ "\n").toList = s.toList := by
    obtain ⟨front, chars⟩ := List.getLast?_eq_some_iff.1 last
    have blank : Text.isBlank '\n' = true := by decide
    simp [Text.trimRight, chars, ink, blank]
  rw [Part.filled, if_pos rfl, trimmed, String.ofList_toList]

end Names

section Manifest

def manifestTitle : String := "# Generated by config-model "

def manifestRemark : String := ". Do not edit.\n"

def manifestPackage : String := "\n[package]\nname = "

def manifestEdition : String :=
  "\nversion = \"0.1.0\"\nedition = \"2021\"\nrust-version = "

def manifestMetadata : String := "\npublish = false\n\n[package.metadata.config-model]\nmodel = "

def manifestVersion : String := "\nversion = "

def manifestMode : String := "\nmode = "

def manifestLibrary : String := "\n\n[lib]\nname = "

def manifestDependencies : String :=
  "\npath = \"src/lib.rs\"\ncrate-type = [\"cdylib\", \"rlib\"]\n\n[dependencies]\n" ++
    "config-model-core = \x7b path = "

/-- The library that every generated one depends on, in the invoking directory. -/
def coreDirectory : String := "/config-model-core"

def manifestEnding : String :=
  " \x7d\nserde = \x7b version = \"1\", features = [\"derive\"] \x7d\nserde_json = \"1\"\n\n" ++
    "# Keeps the generated crate out of any enclosing workspace.\n[workspace]\n"

def manifestParts : List Part := [
  .text manifestTitle.toList, shown (ofCompiler "crate_version" (by decide)),
  .text (manifestRemark ++ manifestPackage).toList, quoted (ofModel "safe_name" (by decide)),
  .text manifestEdition.toList, quoted (ofCompiler "version" (by decide)),
  .text manifestMetadata.toList, quoted (ofModel "name" (by decide)),
  .text manifestVersion.toList, quoted (ofModel "version" (by decide)),
  .text manifestMode.toList, quoted (ofCompiler "mode" (by decide)),
  .text manifestLibrary.toList, quoted (ofModel "lib_name" (by decide)),
  .text (manifestDependencies ++ "\"").toList, shown (ofCompiler "relative_path" (by decide)),
  .text (coreDirectory ++ ("\"" ++ manifestEnding)).toList]

/-- The way back to the invoking directory as it stands in the manifest. -/
def wayText (context : Context) : String := Text.substitute '\\' '/' context.relativePath.text

/-- The manifest that is generated for a model. -/
def manifestStretches (context : Context) : List Stretch := [
  .remark (manifestTitle ++ programVersion ++ manifestRemark), .code manifestPackage,
  .quoted context.model.safeName, .code manifestEdition,
  .quoted context.toolchainVersion, .code manifestMetadata,
  .quoted context.model.name, .code manifestVersion,
  .quoted context.model.version, .code manifestMode,
  .quoted context.mode.text, .code manifestLibrary,
  .quoted context.model.libraryName, .code manifestDependencies,
  .quoted (wayText context ++ coreDirectory), .code manifestEnding]

set_option maxRecDepth 10000 in
theorem manifest_spelled : manifest.toList = Part.spelledAll manifestParts := by
  simp only [manifest, manifestParts, Part.spelledAll, Part.spelled, shown, quoted,
    Template.shownSlot, Template.quotedSlot, ofModel, ofCompiler, Template.Phrase.Slot.text,
    Dotted.text]
  unfold manifestTitle manifestRemark manifestPackage manifestEdition manifestMetadata
    manifestVersion manifestMode manifestLibrary manifestDependencies coreDirectory manifestEnding
  simp only [String.toList_join, List.flatMap_cons, List.flatMap_nil, String.toList_append]
  repeat rw [String.toList_ofList]
  rfl

set_option maxRecDepth 10000 in
theorem manifest_regular : Part.areRegular manifestParts = true := by
  simp only [manifestParts, Part.areRegular, Part.isRegular, shown, quoted]
  unfold manifestTitle manifestRemark manifestPackage manifestEdition manifestMetadata
    manifestVersion manifestMode manifestLibrary manifestDependencies coreDirectory manifestEnding
  simp only [String.toList_append]
  repeat rw [String.toList_ofList]
  rfl

theorem manifest_front : Part.spelledAll manifestParts =
    '#' :: (manifestTitle.toList.tail ++ Part.spelledAll manifestParts.tail) := by
  have first : manifestTitle.toList = '#' :: manifestTitle.toList.tail := by
    unfold manifestTitle
    rw [String.toList_ofList]
    rfl
  rw [manifestParts, Part.spelledAll, Part.spelled, first]
  rfl

theorem manifest_filled (context : Context) :
    Part.filledAll (·.among context.bindings) false manifestParts =
      some (Stretch.join (manifestStretches context)) := by
  have filled : Part.filledAll (·.among context.bindings) false manifestParts = some _ :=
    filledAll_cons (filled_text manifestTitle) <|
    filledAll_cons (filled_shown (among_compiler context "crate_version" (by decide) rfl)) <|
    filledAll_cons (filled_text (manifestRemark ++ manifestPackage)) <|
    filledAll_cons (filled_quoted (among_model context "safe_name" (by decide) rfl)) <|
    filledAll_cons (filled_text manifestEdition) <|
    filledAll_cons (filled_quoted (among_compiler context "version" (by decide) rfl)) <|
    filledAll_cons (filled_text manifestMetadata) <|
    filledAll_cons (filled_quoted (among_model context "name" (by decide) rfl)) <|
    filledAll_cons (filled_text manifestVersion) <|
    filledAll_cons (filled_quoted (among_model context "version" (by decide) rfl)) <|
    filledAll_cons (filled_text manifestMode) <|
    filledAll_cons (filled_quoted (among_compiler context "mode" (by decide) rfl)) <|
    filledAll_cons (filled_text manifestLibrary) <|
    filledAll_cons (filled_quoted (among_model context "lib_name" (by decide) rfl)) <|
    filledAll_cons (filled_text (manifestDependencies ++ "\"")) <|
    filledAll_cons (filled_shown (among_compiler context "relative_path" (by decide) rfl)) <|
    filledAll_cons (filled_text (coreDirectory ++ ("\"" ++ manifestEnding))) <|
    filledAll_nil _ false
  refine filled.trans (congrArg some ?_)
  simp [manifestStretches, Stretch.join, Stretch.text, Template.Filter.quote, wayText,
    String.append_assoc]

/-- The manifest, whatever the context. -/
theorem render_manifest (context : Context) :
    Template.render Kind.manifest.definitionFile Kind.manifest.defaultDefinition
      context.bindings = .ok (Stretch.join (manifestStretches context)) :=
  Part.render_filled manifest_spelled manifest_regular manifest_front (by decide) (by decide)
    (manifest_filled context)

end Manifest

section ModelFile

def modelTitle : String := "//! "

def modelRemark : String := " model. Generated, do not edit.\n"

def modelName : String :=
  "\nuse config_model_core::\x7bConfigModel, ModelInfo, ModuleInfo, Name, Unmarshaller, " ++
    "Validator, Version\x7d;\n\nuse super::unmarshaller::DeviceUnmarshaller;\n" ++
    "use super::validator::DeviceValidator;\n\npub const MODEL_NAME: &str = "

def modelVersion : String := ";\npub const MODEL_VERSION: &str = "

def modelModules : String :=
  ";\n\n/// Schema modules compiled into this model.\npub fn modules() -> Vec<ModuleInfo> \x7b\n" ++
    "    vec!["

def moduleName : String := "\n        ModuleInfo \x7b\n            name: Name::from("

def moduleOrganization : String := "),\n            organization: "

def moduleVersion : String := ",\n            version: Version::from("

def moduleEnding : String := "),\n        \x7d,"

def modelEnding : String :=
  "\n    ]\n\x7d\n\n#[derive(Debug, Default)]\npub struct DeviceModel \x7b\n" ++
    "    unmarshaller: DeviceUnmarshaller,\n    validator: DeviceValidator,\n\x7d\n\n" ++
    "impl DeviceModel \x7b\n    pub fn new() -> Self \x7b\n        Self::default()\n    \x7d\n\x7d\n\n" ++
    "impl ConfigModel for DeviceModel \x7b\n    fn info(&self) -> ModelInfo \x7b\n" ++
    "        ModelInfo \x7b\n            name: Name::from(MODEL_NAME),\n" ++
    "            version: Version::from(MODEL_VERSION),\n            modules: modules(),\n" ++
    "        \x7d\n    \x7d\n\n    fn unmarshaller(&self) -> &dyn Unmarshaller \x7b\n" ++
    "        &self.unmarshaller\n    \x7d\n\n    fn validator(&self) -> &dyn Validator \x7b\n" ++
    "        &self.validator\n    \x7d\n\x7d\n"

def moduleParts : List Part := [
  .text moduleName.toList, quoted (ofModule "name" (by decide)),
  .text moduleOrganization.toList,
  .choice false false (.holds (Template.shownSlot (ofModule "organization" (by decide))))
    [.text "Some(".toList, quoted (ofModule "organization" (by decide)),
      .text ".to_string())".toList]
    [.text "None".toList],
  .text moduleVersion.toList, quoted (ofModule "version" (by decide)),
  .text (moduleEnding ++ "\n").toList]

def modelParts : List Part := [
  .text modelTitle.toList, quoted (ofModel "name" (by decide)),
  .text (modelRemark ++ modelName).toList, quoted (ofModel "name" (by decide)),
  .text modelVersion.toList, quoted (ofModel "version" (by decide)),
  .text (modelModules ++ "\n").toList,
  .each true true "module" (Template.shownSlot (ofModel "modules" (by decide))) moduleParts,
  .text modelEnding.toList]

/-- An organization without a name counts as none. -/
def organizationStretches : Option String → List Stretch
  | some organization =>
    if organization = "" then [.code "None"]
    else [.code "Some(", .quoted organization, .code ".to_string())"]
  | none => [.code "None"]

/-- What the model file says about a module. -/
def moduleStretches (m : SchemaModule) : List Stretch :=
  [.code moduleName, .quoted m.name, .code moduleOrganization] ++
    organizationStretches m.organization ++
      [.code moduleVersion, .quoted m.version, .code moduleEnding]

/-- The model file that is generated for a model. -/
def modelStretches (model : Model) : List Stretch :=
  [.remark (modelTitle ++ Template.Filter.quote model.name ++ modelRemark), .code modelName,
    .quoted model.name, .code modelVersion, .quoted model.version, .code modelModules] ++
      model.modules.flatMap moduleStretches ++ [.code modelEnding]

set_option maxRecDepth 10000 in
theorem model_spelled : model.toList = Part.spelledAll modelParts := by
  simp only [model, modelParts, moduleParts, Part.spelledAll, Part.spelled, quoted,
    Template.shownSlot, Template.quotedSlot, ofModel, ofModule, Template.Phrase.Slot.text,
    Dotted.text]
  unfold modelTitle modelRemark modelName modelVersion modelModules moduleName moduleOrganization
    moduleVersion moduleEnding modelEnding
  simp only [String.toList_join, List.flatMap_cons, List.flatMap_nil, String.toList_append]
  repeat rw [String.toList_ofList]
  rfl

set_option maxRecDepth 10000 in
theorem model_regular : Part.areRegular modelParts = true := by
  simp only [modelParts, moduleParts, Part.areRegular, Part.isRegular, quoted]
  unfold modelTitle modelRemark modelName modelVersion modelModules moduleName moduleOrganization
    moduleVersion moduleEnding modelEnding
  simp only [String.toList_append]
  repeat rw [String.toList_ofList]
  rfl

theorem model_front : Part.spelledAll modelParts =
    '/' :: (modelTitle.toList.tail ++ Part.spelledAll modelParts.tail) := by
  have first : modelTitle.toList = '/' :: modelTitle.toList.tail := by
    unfold modelTitle
    rw [String.toList_ofList]
    rfl
  rw [modelParts, Part.spelledAll, Part.spelled, first]
  rfl

/-- The choice that a module's organization makes. -/
theorem choice_filled {look : Template.Look} {cut : Bool} {name : Dotted} {value : Value}
    {yes no : List Part} (means : look name = some value) :
    Part.filled look cut (.choice false false (.holds (Template.shownSlot name)) yes no) =
      if value.isTruthy then Part.filledAll look false yes else Part.filledAll look false no := by
  rw [Part.filled, Template.Phrase.Condition.truth?, if_neg (by simp [Template.shownSlot])]
  simp only [Template.shownSlot, means, Option.map_some, Option.bind_some]

theorem organization_filled (look : Template.Look) (cut : Bool) (m : SchemaModule) :
    Part.filled (look.within "module" (Context.moduleValue m)) cut
      (.choice false false (.holds (Template.shownSlot (ofModule "organization" (by decide))))
        [.text "Some(".toList, quoted (ofModule "organization" (by decide)),
          .text ".to_string())".toList]
        [.text "None".toList]) =
      some (Stretch.join (organizationStretches m.organization)) := by
  have otherwise : Part.filledAll (look.within "module" (Context.moduleValue m)) false
      [.text "None".toList] = some "None" :=
    filledAll_cons (filled_text "None") (filledAll_nil _ false)
  cases organization : m.organization with
  | none =>
    have field : (Context.moduleValue m).part? "organization" = some .null := by
      rw [Context.moduleValue, organization]
      rfl
    rw [choice_filled (among_module m "organization" (by decide) field)]
    simpa [Value.isTruthy, organizationStretches, Stretch.join, Stretch.text] using otherwise
  | some given =>
    have field : (Context.moduleValue m).part? "organization" = some (.text given) := by
      rw [Context.moduleValue, organization]
      rfl
    have means : (look.within "module" (Context.moduleValue m))
        (ofModule "organization" (by decide)) = some (.text given) :=
      among_module m "organization" (by decide) field
    rw [choice_filled means]
    by_cases empty : given = ""
    · simpa [Value.isTruthy, empty, organizationStretches, Stretch.join, Stretch.text] using
        otherwise
    · have named : Part.filledAll (look.within "module" (Context.moduleValue m)) false
          [.text "Some(".toList, quoted (ofModule "organization" (by decide)),
            .text ".to_string())".toList] = some _ :=
        filledAll_cons (filled_text "Some(") <|
        filledAll_cons (filled_quoted means) <|
        filledAll_cons (filled_text ".to_string())") <|
        filledAll_nil _ false
      simpa [Value.isTruthy, empty, organizationStretches, Stretch.join, Stretch.text] using named

theorem module_filled (look : Template.Look) (m : SchemaModule) :
    Part.filledAll (look.within "module" (Context.moduleValue m)) true moduleParts =
      some (Stretch.join (moduleStretches m)) := by
  have last : moduleEnding.toList.getLast? = some ',' := by
    unfold moduleEnding
    rw [String.toList_ofList]
    rfl
  have filled : Part.filledAll (look.within "module" (Context.moduleValue m)) true moduleParts =
      some _ :=
    filledAll_cons (filled_text moduleName) <|
    filledAll_cons (filled_quoted (among_module m "name" (by decide) rfl)) <|
    filledAll_cons (filled_text moduleOrganization) <|
    filledAll_cons (organization_filled look false m) <|
    filledAll_cons (filled_text moduleVersion) <|
    filledAll_cons (filled_quoted (among_module m "version" (by decide) rfl)) <|
    filledAll_cons (filled_cut last (by decide)) <|
    filledAll_nil _ true
  refine filled.trans (congrArg some ?_)
  simp [moduleStretches, Stretch.join, Stretch.text]

theorem modules_filled (context : Context) :
    Part.filled (·.among context.bindings) false (.each true true "module"
      (Template.shownSlot (ofModel "modules" (by decide))) moduleParts) =
        some (Stretch.join (context.model.modules.flatMap moduleStretches)) := by
  have means := among_model context "modules" (by decide) rfl
  have rounds (modules : List SchemaModule) : (modules.map Context.moduleValue).mapM (fun value =>
      Part.filledAll (Template.Look.within (·.among context.bindings) "module" value) true
        moduleParts) = some (modules.map fun m => Stretch.join (moduleStretches m)) := by
    induction modules with
    | nil => rfl
    | cons m rest ih =>
      rw [List.map_cons, List.mapM_cons, module_filled, ih]
      rfl
  have joined (modules : List SchemaModule) :
      String.join (modules.map fun m => Stretch.join (moduleStretches m)) =
        Stretch.join (modules.flatMap moduleStretches) := by
    induction modules with
    | nil => rfl
    | cons m rest ih => simp_all [Stretch.join]
  rw [Part.filled, if_neg (by simp [Template.shownSlot])]
  simp only [Template.shownSlot, means, rounds, Option.map_some, joined]

theorem model_filled (context : Context) :
    Part.filledAll (·.among context.bindings) false modelParts =
      some (Stretch.join (modelStretches context.model)) := by
  have last : modelModules.toList.getLast? = some '[' := by
    unfold modelModules
    rw [String.toList_append, String.toList_ofList, String.toList_ofList]
    rfl
  have filled : Part.filledAll (·.among context.bindings) false modelParts = some _ :=
    filledAll_cons (filled_text modelTitle) <|
    filledAll_cons (filled_quoted (among_model context "name" (by decide) rfl)) <|
    filledAll_cons (filled_text (modelRemark ++ modelName)) <|
    filledAll_cons (filled_quoted (among_model context "name" (by decide) rfl)) <|
    filledAll_cons (filled_text modelVersion) <|
    filledAll_cons (filled_quoted (among_model context "version" (by decide) rfl)) <|
    filledAll_cons (filled_cut last (by decide)) <|
    filledAll_cons (modules_filled context) <|
    filledAll_cons (filled_text modelEnding) <|
    filledAll_nil _ false
  refine filled.trans (congrArg some ?_)
  simp [modelStretches, Stretch.join, Stretch.text, String.append_assoc]

/-- The model file, whatever the context. -/
theorem render_model (context : Context) :
    Template.render Kind.model.definitionFile Kind.model.defaultDefinition context.bindings =
      .ok (Stretch.join (modelStretches context.model)) :=
  Part.render_filled model_spelled model_regular model_front (by decide) (by decide)
    (model_filled context)

end ModelFile

end Defaults

end ModelForge.Source
