import ModelForge.Proofs.Path.Descent
import ModelForge.Proofs.Source.Defaults

/-! The root of a generated library, line by line. The name and the version of the model stand on the
first line, in a comment and as they are, so a line feed in them begins a line that may be no comment.
Apart from such lines the code depends on the mode alone: it exports the loader symbol in one mode,
and in the other it does not mention it. -/
namespace ModelForge.Source

open Template (Part)
open Template.Phrase (Condition)

namespace Defaults

def entryTitle : String := "//! Config model plugin for "

def entryRemark : String := "//!\n//! Generated by config-model "

def entryModules : String := ". Do not edit.\n\npub mod "

def entryNested : String :=
  " \x7b\n    pub mod generated;\n    pub mod model;\n    pub mod plugin;\n" ++
    "    pub mod unmarshaller;\n    pub mod validator;\n\x7d\n"

def entryExport : String :=
  "\nuse config_model_core::ModelPlugin;\n\n/// Loader entry point.\n#[no_mangle]\npub static "

def entryDeclared : String := ": ModelPlugin = ModelPlugin::new("

def entryCalled : String := "::plugin::model);"

def entryReuse : String :=
  "\n/// Standalone build: link this crate into a host program and call `model()`.\npub use "

def entryReused : String := "::plugin::model;"

/-- The mode decides between two ways to use the package. -/
def entryChoice : Part :=
  .choice true true (.equals (Template.shownSlot Given.mode) "module" (by decide))
    [.text entryExport.toList, shown Given.symbol, .text entryDeclared.toList,
      shown Given.package, .text (entryCalled ++ "\n").toList]
    [.text entryReuse.toList, shown Given.package, .text (entryReused ++ "\n").toList]

def entryParts : List Part := [
  .text entryTitle.toList, shown Given.name, .text " ".toList, shown Given.version,
  .text ("." ++ "\n" ++ entryRemark).toList, shown Given.program, .text entryModules.toList,
  shown Given.package, .text entryNested.toList, entryChoice, .text "\n".toList]

set_option maxRecDepth 10000 in
theorem entryPoint_spelled : entryPoint.toList = Part.spelledAll entryParts := by
  simp only [entryPoint, entryParts, entryChoice, Part.spelledAll, Part.spelled, shown, Condition.text,
    Template.shownSlot, Given.name, Given.version, Given.program, Given.package, Given.mode,
    Given.symbol, ofModel, ofCompiler, Template.Phrase.Slot.text, Template.Phrase.Dotted.text]
  unfold entryTitle entryRemark entryModules entryNested entryExport entryDeclared entryCalled
    entryReuse entryReused
  simp only [String.toList_join, List.flatMap_cons, List.flatMap_nil, String.toList_append]
  repeat rw [String.toList_ofList]
  rfl

set_option maxRecDepth 10000 in
theorem entryPoint_regular : Part.areRegular entryParts = true := by
  simp only [entryParts, entryChoice, Part.areRegular, Part.isRegular, shown]
  unfold entryTitle entryRemark entryModules entryNested entryExport entryDeclared entryCalled
    entryReuse entryReused
  simp only [String.toList_append]
  repeat rw [String.toList_ofList]
  rfl

theorem entryPoint_front : Part.spelledAll entryParts =
    '/' :: (entryTitle.toList.tail ++ Part.spelledAll entryParts.tail) := by
  have first : entryTitle.toList = '/' :: entryTitle.toList.tail := by
    unfold entryTitle
    rw [String.toList_ofList]
    rfl
  rw [entryParts, Part.spelledAll, Part.spelled, first]
  rfl

/-- What the first line says about the model. -/
def credits (model : Model) : String := model.name ++ " " ++ model.version ++ "."

/-- How a library is put to use in each of the modes. -/
def entryUse : Mode → String
  | .loadable =>
    entryExport ++ (loaderSymbol ++ (entryDeclared ++ (packageName ++ entryCalled)))
  | .binary => entryReuse ++ (packageName ++ entryReused)

/-- What comes behind the credits. -/
def entryRest (mode : Mode) : String :=
  entryRemark ++ (programVersion ++ (entryModules ++ (packageName ++ (entryNested ++
    (entryUse mode ++ "\n")))))

theorem entryChoice_filled (context : Context) (cut : Bool) :
    entryChoice.filled (·.among context.bindings) cut = some (entryUse context.mode) := by
  have called : entryCalled.toList.getLast? = some ';' := by
    unfold entryCalled
    rw [String.toList_ofList]
    rfl
  have reused : entryReused.toList.getLast? = some ';' := by
    unfold entryReused
    rw [String.toList_ofList]
    rfl
  have asked : Condition.truth? (·.among context.bindings)
      (.equals (Template.shownSlot Given.mode) "module" (by decide)) =
        some (context.mode.text == "module") := by
    have mode : (shown Given.mode).filled (·.among context.bindings) false =
        some context.mode.text := filled_shown (among_compiler context "mode" (by decide) rfl)
    rw [shown, Part.filled] at mode
    rw [Condition.truth?, mode]
    rfl
  have symbol : Given.symbol.among context.bindings = some (.text loaderSymbol) := rfl
  have package : Given.package.among context.bindings = some (.text packageName) := rfl
  rw [entryChoice, Part.filled, asked, Option.bind_some]
  cases context.mode with
  | loadable =>
    have filled : Part.filledAll (·.among context.bindings) true _ = some _ :=
      filledAll_cons (filled_text entryExport) <|
      filledAll_cons (filled_shown symbol) <|
      filledAll_cons (filled_text entryDeclared) <|
      filledAll_cons (filled_shown package) <|
      filledAll_cons (filled_cut called (by decide)) <|
      filledAll_nil _ true
    rw [if_pos (by decide)]
    simpa [entryUse] using filled
  | binary =>
    have filled : Part.filledAll (·.among context.bindings) true _ = some _ :=
      filledAll_cons (filled_text entryReuse) <|
      filledAll_cons (filled_shown package) <|
      filledAll_cons (filled_cut reused (by decide)) <|
      filledAll_nil _ true
    rw [if_neg (by decide)]
    simpa [entryUse] using filled

theorem entryPoint_filled (context : Context) :
    Part.filledAll (·.among context.bindings) false entryParts =
      some (entryTitle ++ credits context.model ++ "\n" ++ entryRest context.mode) := by
  have filled : Part.filledAll (·.among context.bindings) false entryParts = some _ :=
    filledAll_cons (filled_text entryTitle) <|
    filledAll_cons (filled_shown (among_model context "name" (by decide) rfl)) <|
    filledAll_cons (filled_text " ") <|
    filledAll_cons (filled_shown (among_model context "version" (by decide) rfl)) <|
    filledAll_cons (filled_text ("." ++ "\n" ++ entryRemark)) <|
    filledAll_cons (filled_shown (among_compiler context "crate_version" (by decide) rfl)) <|
    filledAll_cons (filled_text entryModules) <|
    filledAll_cons (filled_shown (among_compiler context "package" (by decide) rfl)) <|
    filledAll_cons (filled_text entryNested) <|
    filledAll_cons (entryChoice_filled context false) <|
    filledAll_cons (filled_text "\n") <|
    filledAll_nil _ false
  refine filled.trans (congrArg some ?_)
  simp only [credits, entryRest, String.append_assoc, String.append_empty]

/-- The root of the library, whatever the context. -/
theorem render_entryPoint (context : Context) :
    Template.render Kind.entryPoint.definitionFile Kind.entryPoint.defaultDefinition
      context.bindings =
        .ok (entryTitle ++ credits context.model ++ "\n" ++ entryRest context.mode) :=
  Part.render_filled entryPoint_spelled entryPoint_regular entryPoint_front (by decide) (by decide)
    (entryPoint_filled context)

section Lines

/-- The lines of a file. Behind the last line feed comes one more, with nothing in it. -/
def lines (text : String) : List String := (Text.fields '\n' text.toList).map String.ofList

/-- Whether a line is a comment, indented or not. -/
def isRemark (line : String) : Bool := "//".toList.isPrefixOf (Text.trimLeft line.toList)

def codeLines (text : String) : List String := (lines text).filter (!isRemark ·)

def mentions (words line : String) : Bool := Text.occursIn words.toList line.toList

theorem lines_append (before after : String) :
    lines (before ++ "\n" ++ after) = lines before ++ lines after := by
  have chars : (before ++ "\n" ++ after).toList = before.toList ++ '\n' :: after.toList := by simp
  rw [lines, chars, Text.fields_append_separator, List.map_append, lines, lines]

theorem codeLines_append (before after : String) :
    codeLines (before ++ "\n" ++ after) = codeLines before ++ codeLines after := by
  rw [codeLines, lines_append, List.filter_append, codeLines, codeLines]

/-- The lines of code that a model brings along: those that begin behind a line feed in its name or
its version, and are no comments. -/
def overflow (model : Model) : List String := (lines (credits model)).tail.filter (!isRemark ·)

theorem overflow_of_oneLine {model : Model} (name : '\n' ∉ model.name.toList)
    (version : '\n' ∉ model.version.toList) : overflow model = [] := by
  have oneLine : '\n' ∉ (credits model).toList := by simp [credits, name, version]
  rw [overflow, lines, Text.fields_of_notMem oneLine]
  rfl

theorem isRemark_title (credit : String) : isRemark (entryTitle ++ credit) = true := by
  unfold entryTitle
  have blank : Text.isBlank '/' = false := by decide
  simp [isRemark, Text.trimLeft, blank]

/-- The first line is a comment, whatever the model. -/
theorem codeLines_title (model : Model) :
    codeLines (entryTitle ++ credits model) = overflow model := by
  have title : Text.fields '\n' entryTitle.toList = [] ++ [entryTitle.toList] := by
    refine Text.fields_of_notMem ?_
    unfold entryTitle
    decide
  obtain ⟨first, more, shape⟩ :=
    List.exists_cons_of_ne_nil (Text.fields_ne_nil '\n' (credits model).toList)
  rw [codeLines, overflow, lines, lines, String.toList_append, Text.fields_append title shape, shape]
  simp [isRemark_title]

end Lines

/-- The lines behind the credits. -/
def entryLines (mode : Mode) : List String :=
  ["//!", "//! Generated by config-model 0.1.0. Do not edit.", "", "pub mod plugin \x7b",
    "    pub mod generated;", "    pub mod model;", "    pub mod plugin;",
    "    pub mod unmarshaller;", "    pub mod validator;", "\x7d", ""] ++
    match mode with
    | .loadable =>
      ["use config_model_core::ModelPlugin;", "", "/// Loader entry point.", "#[no_mangle]",
        "pub static MODEL_PLUGIN: ModelPlugin = ModelPlugin::new(plugin::plugin::model);", ""]
    | .binary =>
      ["/// Standalone build: link this crate into a host program and call `model()`.",
        "pub use plugin::plugin::model;", ""]

def entryCode (mode : Mode) : List String := (entryLines mode).filter (!isRemark ·)

set_option maxRecDepth 10000 in
theorem lines_entryRest (mode : Mode) : lines (entryRest mode) = entryLines mode := by
  rw [lines]
  cases mode with
  | loadable =>
    simp only [entryRest, entryUse, String.toList_append]
    unfold entryRemark programVersion entryModules packageName entryNested entryExport loaderSymbol
      entryDeclared entryCalled
    simp only [String.toList_append]
    repeat rw [String.toList_ofList]
    rfl
  | binary =>
    simp only [entryRest, entryUse, String.toList_append]
    unfold entryRemark programVersion entryModules packageName entryNested entryReuse entryReused
    simp only [String.toList_append]
    repeat rw [String.toList_ofList]
    rfl

/-- A file that hands out the symbol that a loader looks for: one line declares it, and it is not
mangled. -/
structure Exports (text : String) : Prop where
  once : ((codeLines text).filter (mentions ("pub static " ++ loaderSymbol))).length = 1
  unmangled : ∃ before declaration after,
    lines text = before ++ "#[no_mangle]" :: declaration :: after ∧
      isRemark declaration = false ∧ mentions ("pub static " ++ loaderSymbol) declaration

/-- A file that leaves the symbol alone and passes on the function that makes a model. -/
structure Reexports (text : String) : Prop where
  silent : ∀ line ∈ codeLines text,
    mentions "#[no_mangle]" line = false ∧ mentions loaderSymbol line = false
  once : (codeLines text).count "pub use plugin::plugin::model;" = 1

/-- What a library is generated for. -/
def Serves : Mode → String → Prop
  | .loadable => Exports
  | .binary => Reexports

theorem codeLines_entryPoint (model : Model) (mode : Mode) :
    codeLines (entryTitle ++ credits model ++ "\n" ++ entryRest mode) =
      overflow model ++ entryCode mode := by
  rw [codeLines_append, codeLines_title, codeLines, lines_entryRest, entryCode]

theorem exports_of_codeLines {model : Model} (alone : overflow model = []) :
    Exports (entryTitle ++ credits model ++ "\n" ++ entryRest .loadable) where
  once := by
    rw [codeLines_entryPoint, alone]
    decide +kernel
  unmangled := by
    refine ⟨lines (entryTitle ++ credits model) ++ (entryLines .loadable).take 14,
      "pub static MODEL_PLUGIN: ModelPlugin = ModelPlugin::new(plugin::plugin::model);", [""],
      ?_, by decide +kernel, by decide +kernel⟩
    rw [lines_append, lines_entryRest, List.append_assoc]
    rfl

theorem reexports_of_codeLines {model : Model} (alone : overflow model = []) :
    Reexports (entryTitle ++ credits model ++ "\n" ++ entryRest .binary) where
  silent := by
    rw [codeLines_entryPoint, alone]
    decide +kernel
  once := by
    rw [codeLines_entryPoint, alone]
    decide +kernel

/-- The code of the root depends on the mode alone, and it exports the loader symbol in the mode
that is for loaders only. The exceptions are the lines that line feeds in the name and the version
of the model begin: they come first, as they are. -/
theorem entryPoint_serves (context : Context) :
    ∃ text, Template.render Kind.entryPoint.definitionFile Kind.entryPoint.defaultDefinition
        context.bindings = .ok text ∧
      codeLines text = overflow context.model ++ entryCode context.mode ∧
      (overflow context.model = [] → Serves context.mode text) ∧
      ('\n' ∉ context.model.name.toList → '\n' ∉ context.model.version.toList →
        overflow context.model = []) := by
  refine ⟨_, render_entryPoint context, codeLines_entryPoint _ _, fun alone => ?_,
    overflow_of_oneLine⟩
  cases context.mode with
  | loadable => exact exports_of_codeLines alone
  | binary => exact reexports_of_codeLines alone

/-- A model with nothing remarkable about it. -/
def plainModel : Model := ⟨"m", "1.0", []⟩

theorem entryPoint_serves_plain :
    ∃ text, Template.render Kind.entryPoint.definitionFile Kind.entryPoint.defaultDefinition
        (Context.mk plainModel .loadable "1.75" ⟨"../.."⟩).bindings = .ok text ∧
      codeLines text = entryCode .loadable ∧ Exports text := by
  obtain ⟨text, rendered, code, serves, alone⟩ :=
    entryPoint_serves ⟨plainModel, .loadable, "1.75", ⟨"../.."⟩⟩
  have none : overflow plainModel = [] := alone (by decide +kernel) (by decide +kernel)
  rw [none] at code
  exact ⟨text, rendered, code, serves none⟩

/-- A model whose name ends the first comment and goes on with code. -/
def talkativeModel : Model := ⟨"a\n#[no_mangle]\npub static MODEL_PLUGIN: u8 = 0;\n//", "1", []⟩

/-- A valid model can bring a loader symbol of its own, in both modes. -/
theorem entryPoint_serves_talkative :
    plainModel.validate = .ok () ∧ talkativeModel.validate = .ok () ∧
      ∀ mode, ∃ plain text,
        Template.render Kind.entryPoint.definitionFile Kind.entryPoint.defaultDefinition
          (Context.mk plainModel mode "1.75" ⟨"../.."⟩).bindings = .ok plain ∧
        Template.render Kind.entryPoint.definitionFile Kind.entryPoint.defaultDefinition
          (Context.mk talkativeModel mode "1.75" ⟨"../.."⟩).bindings = .ok text ∧
        codeLines text ≠ codeLines plain ∧ ¬ Serves mode text := by
  have brought : overflow talkativeModel = ["#[no_mangle]", "pub static MODEL_PLUGIN: u8 = 0;"] := by
    decide +kernel
  have none : overflow plainModel = [] := by decide +kernel
  refine ⟨rfl, rfl, fun mode =>
    ⟨_, _, render_entryPoint _, render_entryPoint _, fun same => ?_, ?_⟩⟩
  · rw [codeLines_entryPoint, codeLines_entryPoint, brought, none] at same
    have longer := congrArg List.length same
    simp only [List.length_append, List.length_cons, List.length_nil] at longer
    omega
  · cases mode with
    | loadable =>
      intro exported
      have once := exported.once
      rw [codeLines_entryPoint, brought] at once
      revert once
      decide +kernel
    | binary =>
      intro reexported
      have silent := reexported.silent "#[no_mangle]" (by
        rw [codeLines_entryPoint, brought]
        simp)
      revert silent
      decide +kernel

end Defaults

end ModelForge.Source
