import ModelForge.Proofs.Source.Defaults
import ModelForge.Proofs.Source.Literal

/-! What a compiler and a build tool find in the generated files. Values are put between two quotes
as they are, so they are read back where they are plain, and what is said about the model by the
file made for it is then what the model says. -/
namespace ModelForge.Source

open Template.Filter (quote)

namespace Stretch

/-- What a stretch is meant to be read as. -/
def tokens (language : Language) : Stretch → List Token
  | code s => (language.run .code s.toList).1
  | quoted s => [.text s]
  | remark _ => []

@[simp] theorem tokens_quoted (language : Language) (s : String) :
    (quoted s).tokens language = [.text s] := rfl

@[simp] theorem tokens_remark (language : Language) (s : String) :
    (remark s).tokens language = [] := rfl

/-- Whether a stretch is read as it is meant, whatever stands behind it. -/
def Sound (language : Language) : Stretch → Prop
  | code s => (language.run .code s.toList).2 = .code
  | quoted s => ∀ c ∈ s.toList, language.isPlain c = true
  | remark s => language.run .code s.toList = ([], .code)

variable {language : Language} {stretch : Stretch} {stretches : List Stretch}

theorem Sound.run (sound : stretch.Sound language) :
    language.run .code stretch.text.toList = (stretch.tokens language, .code) := by
  cases stretch with
  | code s => exact Prod.ext rfl sound
  | quoted s => exact Language.run_quote_plain sound
  | remark s => exact sound

/-- A file of sound stretches is read as they are meant. -/
theorem tokens?_join (sound : ∀ stretch ∈ stretches, stretch.Sound language) :
    language.tokens? (join stretches) = some (stretches.flatMap (tokens language)) := by
  have runs : language.run .code (join stretches).toList =
      (stretches.flatMap (tokens language), .code) := by
    induction stretches with
    | nil => rfl
    | cons first rest ih =>
      have one := (sound first List.mem_cons_self).run
      have others := ih fun stretch member => sound stretch (List.mem_cons_of_mem _ member)
      rw [join_cons, String.toList_append, Language.run_append, one, others, List.flatMap_cons]
  rw [Language.tokens?, runs]

end Stretch

/-- The first text that stands right behind an opening. The signs since the last text are `before`,
the last one first. -/
def textBehind? (opening before : List Char) : List Token → Option String
  | [] => none
  | .sign c :: rest => textBehind? opening (c :: before) rest
  | .text s :: rest =>
    if opening.reverse.isPrefixOf before then some s else textBehind? opening [] rest

/-- The signs behind the last text, the last one first. -/
def lastSigns (before : List Char) : List Token → List Char
  | [] => before
  | .sign c :: rest => lastSigns (c :: before) rest
  | .text _ :: rest => lastSigns [] rest

theorem textBehind?_append (opening before : List Char) (first rest : List Token) :
    textBehind? opening before (first ++ rest) =
      (textBehind? opening before first).or (textBehind? opening (lastSigns before first) rest) := by
  induction first generalizing before with
  | nil => rfl
  | cons token more ih =>
    cases token with
    | sign c => exact ih (c :: before)
    | text s =>
      simp only [List.cons_append, textBehind?, lastSigns, ih]
      split <;> rfl

/-- Whether no text in a stretch of code is the one behind an opening. -/
def Passes (language : Language) (opening : List Char) (s : String) : Bool :=
  (textBehind? opening [] ((Stretch.code s).tokens language)).isNone

/-- Whether the text behind a stretch of code is the one behind an opening. -/
def Opens (language : Language) (opening : List Char) (s : String) : Bool :=
  opening.reverse.isPrefixOf (lastSigns [] ((Stretch.code s).tokens language))

/-- A value behind a stretch of code. -/
theorem textBehind?_value {language : Language} {opening : List Char} {s : String}
    (passes : Passes language opening s = true) (t : String) (rest : List Stretch) :
    textBehind? opening [] ((.code s :: .quoted t :: rest).flatMap (Stretch.tokens language)) =
      if Opens language opening s then some t
      else textBehind? opening [] (rest.flatMap (Stretch.tokens language)) := by
  have none : textBehind? opening [] ((Stretch.code s).tokens language) = none := by
    simpa [Passes] using passes
  rw [List.flatMap_cons, textBehind?_append, none, Option.none_or, List.flatMap_cons,
    Stretch.tokens_quoted, List.singleton_append, textBehind?]
  rfl

/-- How a constant with a text begins in the generated code. -/
def declaration (name : String) : List Char := ("const " ++ name ++ ": &str = ").toList

/-- What a model file says about its model. -/
def info? (tokens : List Token) : Option Identity := do
  let name ← textBehind? (declaration "MODEL_NAME") [] tokens
  let version ← textBehind? (declaration "MODEL_VERSION") [] tokens
  pure ⟨name, version⟩

/-- How the dependency on the library of every model begins in a manifest. -/
def coreOpening : List Char := "config-model-core = \x7b path = ".toList

/-- Where a manifest says that the library of every model is. -/
def corePath? (manifest : String) : Option String := do
  textBehind? coreOpening [] (← Language.manifest.tokens? manifest)

section Manifest

open Defaults ModelForge.Source.Language

/-- The code of every manifest. -/
def manifestCodes : List String :=
  [manifestPackage, manifestEdition, manifestMetadata, manifestVersion, manifestMode,
    manifestLibrary, manifestDependencies, manifestEnding]

set_option maxRecDepth 10000 in
theorem manifestCodes_sound :
    ∀ s ∈ manifestCodes, (Language.manifest.run .code s.toList).2 = .code := by
  simp only [manifestCodes, List.forall_mem_cons]
  unfold manifestPackage manifestEdition manifestMetadata manifestVersion manifestMode
    manifestLibrary manifestDependencies manifestEnding
  simp only [String.toList_append]
  repeat rw [String.toList_ofList]
  decide

set_option maxRecDepth 10000 in
theorem manifestRemark_sound :
    (Stretch.remark (manifestTitle ++ programVersion ++ manifestRemark)).Sound
      Language.manifest := by
  unfold Stretch.Sound manifestTitle programVersion manifestRemark
  simp only [String.toList_append]
  repeat rw [String.toList_ofList]
  decide

/-- A manifest with plain values is read as it is meant. -/
theorem manifest_sound {context : Context} (plain : ∀ s, .quoted s ∈ manifestStretches context →
    ∀ c ∈ s.toList, Language.manifest.isPlain c = true) :
    ∀ stretch ∈ manifestStretches context, stretch.Sound Language.manifest := by
  intro stretch member
  cases stretch with
  | quoted s => exact plain s member
  | code s =>
    refine manifestCodes_sound s ?_
    simpa [manifestStretches, manifestCodes] using member
  | remark s =>
    obtain rfl : s = manifestTitle ++ programVersion ++ manifestRemark := by
      simpa [manifestStretches] using member
    exact manifestRemark_sound

set_option maxRecDepth 10000 in
theorem manifestCodes_core :
    (∀ s ∈ [manifestPackage, manifestEdition, manifestMetadata, manifestVersion, manifestMode,
      manifestLibrary], Passes Language.manifest coreOpening s = true ∧
        Opens Language.manifest coreOpening s = false) ∧
    Passes Language.manifest coreOpening manifestDependencies = true ∧
      Opens Language.manifest coreOpening manifestDependencies = true := by
  simp only [List.forall_mem_cons, Passes, Opens, Stretch.tokens]
  unfold manifestPackage manifestEdition manifestMetadata manifestVersion manifestMode
    manifestLibrary manifestDependencies coreOpening
  simp only [String.toList_append]
  repeat rw [String.toList_ofList]
  decide

/-- The way back to the invoking directory stands where the manifest names the library. -/
theorem corePath?_manifest {context : Context} (plain : ∀ s, .quoted s ∈ manifestStretches context →
    ∀ c ∈ s.toList, Language.manifest.isPlain c = true) :
    corePath? (Stretch.join (manifestStretches context)) =
      some (wayText context ++ coreDirectory) := by
  obtain ⟨others, passes, opens⟩ := manifestCodes_core
  have skip {s : String} (member : s ∈ [manifestPackage, manifestEdition, manifestMetadata,
      manifestVersion, manifestMode, manifestLibrary]) (t : String) (rest : List Stretch) :
      textBehind? coreOpening []
          ((.code s :: .quoted t :: rest).flatMap (Stretch.tokens Language.manifest)) =
        textBehind? coreOpening [] (rest.flatMap (Stretch.tokens Language.manifest)) := by
    rw [textBehind?_value (others s member).1, if_neg (by simp [(others s member).2])]
  rw [corePath?, Stretch.tokens?_join (manifest_sound plain), Option.bind_eq_bind, Option.bind_some,
    manifestStretches, List.flatMap_cons, Stretch.tokens_remark, List.nil_append,
    skip (by simp), skip (by simp), skip (by simp), skip (by simp), skip (by simp),
    skip (by simp), textBehind?_value passes, if_pos opens]

end Manifest

section ModelFile

open Defaults ModelForge.Source.Language

/-- The code of every model file. -/
def modelCodes : List String :=
  [modelName, modelVersion, modelModules, moduleName, moduleOrganization, "None", "Some(",
    ".to_string())", moduleVersion, moduleEnding, modelEnding]

set_option maxRecDepth 10000 in
theorem modelCodes_sound : ∀ s ∈ modelCodes, (program.run .code s.toList).2 = .code := by
  simp only [modelCodes, List.forall_mem_cons]
  unfold modelName modelVersion modelModules moduleName moduleOrganization moduleVersion
    moduleEnding modelEnding
  simp only [String.toList_append]
  repeat rw [String.toList_ofList]
  decide

theorem code_mem_organizationStretches {organization : Option String} {s : String}
    (member : .code s ∈ organizationStretches organization) : s ∈ modelCodes := by
  cases organization with
  | none =>
    have only : s = "None" := by simpa [organizationStretches] using member
    simp [modelCodes, only]
  | some given =>
    by_cases empty : given = ""
    · have only : s = "None" := by simpa [organizationStretches, empty] using member
      simp [modelCodes, only]
    · have either : s = "Some(" ∨ s = ".to_string())" := by
        simpa [organizationStretches, empty] using member
      rcases either with rfl | rfl <;> simp [modelCodes]

theorem code_mem_modelStretches {model : Model} {s : String}
    (member : .code s ∈ modelStretches model) : s ∈ modelCodes := by
  rw [modelStretches, List.mem_append, List.mem_append, List.mem_flatMap] at member
  rcases member with (first | ⟨m, -, inside⟩) | last
  · have one : s = modelName ∨ s = modelVersion ∨ s = modelModules := by simpa using first
    rcases one with rfl | rfl | rfl <;> simp [modelCodes]
  · rw [moduleStretches, List.mem_append, List.mem_append] at inside
    rcases inside with (name | organization) | version
    · have one : s = moduleName ∨ s = moduleOrganization := by simpa using name
      rcases one with rfl | rfl <;> simp [modelCodes]
    · exact code_mem_organizationStretches organization
    · have one : s = moduleVersion ∨ s = moduleEnding := by simpa using version
      rcases one with rfl | rfl <;> simp [modelCodes]
  · have only : s = modelEnding := by simpa using last
    simp [modelCodes, only]

/-- The first line is the only remark of its own, and it holds the name. -/
theorem remark_mem_modelStretches {model : Model} {s : String}
    (member : .remark s ∈ modelStretches model) :
    s = modelTitle ++ quote model.name ++ modelRemark := by
  have organization (given : Option String) : .remark s ∉ organizationStretches given := by
    unfold organizationStretches
    split
    · split <;> simp
    · simp
  have inside (m : SchemaModule) : .remark s ∉ moduleStretches m := by
    simp [moduleStretches, organization]
  simpa [modelStretches, inside] using member

theorem modelRemark_sound {model : Model} (oneLine : '\n' ∉ model.name.toList) :
    (Stretch.remark (modelTitle ++ quote model.name ++ modelRemark)).Sound program := by
  obtain ⟨ending, last, noLine⟩ : ∃ ending, modelRemark.toList = ending ++ ['\n'] ∧
      '\n' ∉ ending := by
    refine ⟨modelRemark.toList.dropLast, ?_, ?_⟩
    all_goals
      unfold modelRemark
      rw [String.toList_ofList]
      decide
  have title : modelTitle.toList = ['/', '/'] ++ ['!', ' '] := by
    unfold modelTitle
    rw [String.toList_ofList]
    rfl
  have opens : program.run .code ['/', '/'] = ([], .remark) := rfl
  have chars : (modelTitle ++ quote model.name ++ modelRemark).toList =
      ['/', '/'] ++ ((['!', ' '] ++ (quote model.name).toList ++ ending) ++ ['\n']) := by
    simp [title, last]
  have inside : '\n' ∉ ['!', ' '] ++ (quote model.name).toList ++ ending := by
    simp [Template.Filter.quote, oneLine, noLine]
  rw [Stretch.Sound, chars, run_append, opens]
  simp only [run_remark inside]
  rfl

/-- A model file with plain values and a name on one line is read as it is meant. -/
theorem model_sound {model : Model} (plain : ∀ s, .quoted s ∈ modelStretches model →
    ∀ c ∈ s.toList, program.isPlain c = true) (oneLine : '\n' ∉ model.name.toList) :
    ∀ stretch ∈ modelStretches model, stretch.Sound program := by
  intro stretch member
  cases stretch with
  | quoted s => exact plain s member
  | code s => exact modelCodes_sound s (code_mem_modelStretches member)
  | remark s =>
    rw [remark_mem_modelStretches member]
    exact modelRemark_sound oneLine

set_option maxRecDepth 10000 in
theorem modelCodes_info :
    Passes program (declaration "MODEL_NAME") modelName = true ∧
    Opens program (declaration "MODEL_NAME") modelName = true ∧
    Passes program (declaration "MODEL_VERSION") modelName = true ∧
    Opens program (declaration "MODEL_VERSION") modelName = false ∧
    Passes program (declaration "MODEL_VERSION") modelVersion = true ∧
    Opens program (declaration "MODEL_VERSION") modelVersion = true := by
  simp only [Passes, Opens, Stretch.tokens]
  unfold modelName modelVersion declaration
  simp only [String.toList_append]
  repeat rw [String.toList_ofList]
  decide

/-- What the model file says about its model is what the model says. -/
theorem info?_model (model : Model) :
    info? ((modelStretches model).flatMap (Stretch.tokens program)) = some model.identity := by
  obtain ⟨passesName, opensName, passesOther, opensOther, passesVersion, opensVersion⟩ :=
    modelCodes_info
  obtain ⟨others, stretches⟩ : ∃ others, modelStretches model =
      .remark (modelTitle ++ quote model.name ++ modelRemark) :: .code modelName ::
        .quoted model.name :: .code modelVersion :: .quoted model.version :: others := ⟨_, rfl⟩
  rw [stretches, List.flatMap_cons, Stretch.tokens_remark, List.nil_append, info?,
    textBehind?_value passesName, if_pos opensName, textBehind?_value passesOther,
    if_neg (by simp [opensOther]), textBehind?_value passesVersion, if_pos opensVersion]
  rfl

end ModelFile

section Values

open Defaults ModelForge.Source.Language

theorem manifest_isPlain_iff {c : Char} : Language.manifest.isPlain c = true ↔
    c ≠ '"' ∧ c ≠ '\\' ∧ (c < ' ' → c = '\t') ∧ c ≠ '\x7f' := by
  rw [isPlain_iff]
  simp [Language.manifest]

theorem program_isPlain_iff {c : Char} :
    program.isPlain c = true ↔ c ≠ '"' ∧ c ≠ '\\' ∧ c ≠ '\r' := by
  rw [isPlain_iff]
  simp [program]

/-- Both files hold the values as they are, between two quotes. Such a value is read back, as one
text and unchanged, exactly if it has no quote, no backslash and, in the manifest, no control
character but the tab, in the code no carriage return. A file whose values are all of this kind is
read as it is meant; in the model file the name stands in a line comment too, so it may not hold a
line feed, and then what the file says about the model is what the model says. -/
theorem values_read_back (context : Context) :
    Template.render Kind.manifest.definitionFile Kind.manifest.defaultDefinition
        context.bindings = .ok (Stretch.join (manifestStretches context)) ∧
    Template.render Kind.model.definitionFile Kind.model.defaultDefinition
        context.bindings = .ok (Stretch.join (modelStretches context.model)) ∧
    (∀ s, Language.manifest.tokens? (quote s) = some [.text s] ↔
      ∀ c ∈ s.toList, c ≠ '"' ∧ c ≠ '\\' ∧ (c < ' ' → c = '\t') ∧ c ≠ '\x7f') ∧
    (∀ s, program.tokens? (quote s) = some [.text s] ↔
      ∀ c ∈ s.toList, c ≠ '"' ∧ c ≠ '\\' ∧ c ≠ '\r') ∧
    ((∀ s, .quoted s ∈ manifestStretches context →
        Language.manifest.tokens? (quote s) = some [.text s]) →
      Language.manifest.tokens? (Stretch.join (manifestStretches context)) =
        some ((manifestStretches context).flatMap (Stretch.tokens Language.manifest))) ∧
    ((∀ s, .quoted s ∈ modelStretches context.model →
        program.tokens? (quote s) = some [.text s]) → '\n' ∉ context.model.name.toList →
      ∃ tokens, program.tokens? (Stretch.join (modelStretches context.model)) = some tokens ∧
        tokens = (modelStretches context.model).flatMap (Stretch.tokens program) ∧
        info? tokens = some context.model.identity) := by
  refine ⟨render_manifest context, render_model context, fun s => ?_, fun s => ?_, fun plain => ?_,
    fun plain oneLine => ?_⟩
  · simp only [tokens?_quote_iff, manifest_isPlain_iff]
  · simp only [tokens?_quote_iff, program_isPlain_iff]
  · exact Stretch.tokens?_join
      (manifest_sound fun s member => tokens?_quote_iff.1 (plain s member))
  · have sound := model_sound (fun s member => tokens?_quote_iff.1 (plain s member)) oneLine
    exact ⟨_, Stretch.tokens?_join sound, rfl, info?_model context.model⟩

/-- A model with a module of an organization. -/
def plainContext : Context :=
  ⟨⟨"router", "1.0", [⟨"ports", "2", some "acme", ByteArray.empty⟩]⟩, .loadable, "1.75", ⟨"../.."⟩⟩

theorem values_read_back_plain :
    ∃ tokens, program.tokens? (Stretch.join (modelStretches plainContext.model)) = some tokens ∧
      tokens = (modelStretches plainContext.model).flatMap (Stretch.tokens program) ∧
      info? tokens = some ⟨"router", "1.0"⟩ := by
  obtain ⟨-, -, -, reads, -, file⟩ := values_read_back plainContext
  have plain : ∀ s ∈ ["router", "1.0", "ports", "acme", "2"],
      s.toList.all program.isPlain = true := by decide +kernel
  refine file (fun s member => (reads s).2 fun c inside =>
    program_isPlain_iff.1 (List.all_eq_true.1 (plain s ?_) c inside)) (by decide)
  simpa [plainContext, modelStretches, moduleStretches, organizationStretches] using member

/-- A name with a quote in it. -/
def quotedModel : Model := ⟨"a\"b", "1", []⟩

/-- A name on two lines. -/
def brokenModel : Model := ⟨"a\nb", "1", []⟩

set_option maxRecDepth 10000 in
/-- What stands behind the line end of the name is taken for code. -/
theorem brokenModel_misread : program.tokens? (Stretch.join (modelStretches brokenModel)) ≠
    some ((modelStretches brokenModel).flatMap (Stretch.tokens program)) := by
  obtain ⟨others, stretches⟩ : ∃ others, modelStretches brokenModel =
      .remark (modelTitle ++ quote brokenModel.name ++ modelRemark) :: .code modelName :: others :=
    ⟨_, rfl⟩
  have remark : (program.run .code
      (modelTitle ++ quote brokenModel.name ++ modelRemark).toList).1.head? = some (.sign 'b') := by
    unfold modelTitle modelRemark
    decide
  have code : ((Stretch.code modelName).tokens program).head? = some (.sign '\n') := by
    unfold modelName
    simp only [Stretch.tokens, String.toList_append]
    repeat rw [String.toList_ofList]
    decide
  intro same
  have heads := congrArg List.head? (run_of_tokens? same)
  rw [stretches, Stretch.join_cons, String.toList_append, run_append, Stretch.text,
    List.head?_append, remark, Option.some_or, List.flatMap_cons, Stretch.tokens_remark,
    List.nil_append, List.flatMap_cons, List.head?_append, code, Option.some_or] at heads
  cases heads

/-- The quote in the name ends the text. -/
theorem values_read_back_broken :
    (quotedModel.validate = .ok () ∧
      Template.render Kind.model.definitionFile Kind.model.defaultDefinition
        (Context.bindings ⟨quotedModel, .loadable, "1.75", ⟨"."⟩⟩) =
          .ok (Stretch.join (modelStretches quotedModel)) ∧
      .quoted quotedModel.name ∈ modelStretches quotedModel ∧
      program.tokens? (quote quotedModel.name) ≠ some [.text quotedModel.name] ∧
      Language.manifest.tokens? (quote quotedModel.name) ≠ some [.text quotedModel.name]) ∧
    brokenModel.validate = .ok () ∧
      program.tokens? (quote brokenModel.name) = some [.text brokenModel.name] ∧
      program.tokens? (Stretch.join (modelStretches brokenModel)) ≠
        some ((modelStretches brokenModel).flatMap (Stretch.tokens program)) := by
  refine ⟨⟨rfl, render_model _, by simp [modelStretches], by decide +kernel, by decide +kernel⟩,
    rfl, by decide +kernel, brokenModel_misread⟩

end Values

end ModelForge.Source
