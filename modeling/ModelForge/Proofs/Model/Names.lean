import Mathlib.Data.List.Infix
import ModelForge.Compile.SchemaFile
import ModelForge.Proofs.Model.Validate
import ModelForge.Proofs.Path.Descent
import ModelForge.Source.Kind

/-! The names of the files and directories of a model. Without slashes in its texts each is the
name of one entry, and no two parts of the layout share one. -/
namespace ModelForge

theorem Path.IsName.of_mem {text : String} {c : Char} (member : c ∈ text.toList) (other : c ≠ '.')
    (unslashed : '/' ∉ text.toList) : Path.IsName text where
  nonempty := by rintro rfl; simp at member
  ne_current := by rintro rfl; simp [other] at member
  ne_parent := by rintro rfl; simp [other] at member
  unslashed := unslashed

/-- Neither the name nor the version holds a slash. -/
structure Identity.Unslashed (identity : Identity) : Prop where
  name : '/' ∉ identity.name.toList
  version : '/' ∉ identity.version.toList

instance (identity : Identity) : Decidable identity.Unslashed :=
  decidable_of_iff ('/' ∉ identity.name.toList ∧ '/' ∉ identity.version.toList)
    ⟨fun ⟨a, b⟩ => ⟨a, b⟩, fun ⟨a, b⟩ => ⟨a, b⟩⟩

namespace SchemaModule

theorem fileName_toList (m : SchemaModule) :
    m.fileName.toList = m.name.toList ++ '@' :: m.version.toList ++ ".yang".toList := by
  simp [fileName, identity, Identity.key]

theorem fileName_ne_empty (m : SchemaModule) : m.fileName ≠ "" := by
  intro empty
  simpa [empty] using fileName_toList m

/-- Two modules share a file name only if they share both parts of it, as long as their names hold
no `@`. -/
theorem fileName_injective {a b : SchemaModule} (plain : '@' ∉ a.name.toList)
    (plain' : '@' ∉ b.name.toList) (same : a.fileName = b.fileName) : a.identity = b.identity := by
  have chars := congrArg String.toList same
  rw [fileName_toList, fileName_toList] at chars
  have keys := congrArg (Text.fields '@') (List.append_cancel_right chars)
  rw [Text.fields_append_separator, Text.fields_append_separator, Text.fields_of_notMem plain,
    Text.fields_of_notMem plain', List.singleton_append, List.singleton_append] at keys
  obtain ⟨names, versions⟩ := List.cons.inj keys
  have version := congrArg (Text.rejoin '@') versions
  rw [Text.rejoin_fields, Text.rejoin_fields] at version
  have nameEq := String.toList_inj.1 names
  have versionEq := String.toList_inj.1 version
  rw [identity, identity, nameEq, versionEq]

theorem isName_fileName {m : SchemaModule} (unslashed : m.identity.Unslashed) :
    Path.IsName m.fileName := by
  have name : '/' ∉ m.name.toList := unslashed.name
  have version : '/' ∉ m.version.toList := unslashed.version
  apply Path.IsName.of_mem (c := '@')
  · simp [fileName_toList]
  · decide
  · simp [fileName_toList, name, version]

end SchemaModule

namespace Compile

/-- The name beside a file's under which its data are written first. -/
def stagedName (name : String) : String := name ++ ".config-model.tmp"

theorem stagedName_injective {a b : String} (same : stagedName a = stagedName b) : a = b := by
  have chars := congrArg String.toList same
  simp only [stagedName, String.toList_append] at chars
  exact String.toList_inj.1 (List.append_cancel_right chars)

theorem fileName_ne_stagedName (m : SchemaModule) (name : String) :
    m.fileName ≠ stagedName name := by
  intro same
  have reversed := congrArg (fun text => text.toList.reverse.head?) same
  simp [SchemaModule.fileName_toList, stagedName] at reversed

theorem stagedName_ne (name : String) : stagedName name ≠ name := by
  intro same
  have length := congrArg String.length same
  simp [stagedName] at length

theorem isName_stagedName {name : String} (unslashed : '/' ∉ name.toList) :
    Path.IsName (stagedName name) := by
  apply Path.IsName.of_mem (c := 'c')
  · simp [stagedName]
  · decide
  · simp [stagedName, unslashed]

theorem inward_stagedName {name : String} (inward : Path.Inward name) (some : name ≠ "") :
    Path.Inward (stagedName name) :=
  inward.append some (by decide) (show 'c' ∈ _ by decide) (by decide)

theorem stagingPath_child (base : Path) {name : String} (some : name ≠ "") :
    stagingPath (base.child name) = base.child (stagedName name) := by
  have absolute : (Path.mk (stagedName name)).isAbsolute = (Path.mk name).isAbsolute := by
    obtain ⟨c, rest, shape⟩ := List.exists_cons_of_ne_nil fun none => some (String.toList_inj.1 none)
    simp [Path.isAbsolute, stagedName, shape]
  unfold Path.child Path.join stagingPath
  rw [absolute]
  split
  · rfl
  · split <;> simp [stagedName, String.append_assoc]

end Compile

namespace Text

theorem separator_notMem_substitute {old new separator : Char} {text : String}
    (absent : separator ∉ text.toList) (other : new ≠ separator) :
    separator ∉ (substitute old new text).toList := by
  intro member
  obtain ⟨c, found, eq⟩ : ∃ c ∈ text.toList, (if c = old then new else c) = separator := by
    simpa [substitute] using member
  split at eq
  · exact other eq
  · exact absent (eq ▸ found)

theorem substitute_of_notMem {old new : Char} {text : String} (absent : old ∉ text.toList) :
    substitute old new text = text := by
  have same : text.toList.map (fun c => if c = old then new else c) = text.toList.map id :=
    List.map_congr_left fun c member => if_neg fun (eq : c = old) => absent (eq ▸ member)
  rw [substitute, same, List.map_id, String.ofList_toList]

end Text

namespace Model

/-- No name and no version in a model holds a slash. -/
structure Unslashed (model : Model) : Prop where
  identity : model.identity.Unslashed
  modules : ∀ m ∈ model.modules, m.identity.Unslashed

instance (model : Model) : Decidable model.Unslashed :=
  decidable_of_iff (model.identity.Unslashed ∧ ∀ m ∈ model.modules, m.identity.Unslashed)
    ⟨fun ⟨a, b⟩ => ⟨a, b⟩, fun ⟨a, b⟩ => ⟨a, b⟩⟩

/-- The names of the library and of the schema files lead down from where they are joined. They
may hold slashes. -/
structure Inward (model : Model) : Prop where
  artifact : Path.Inward model.identity.artifactName
  modules : ∀ m ∈ model.modules, Path.Inward m.fileName

instance (model : Model) : Decidable model.Inward :=
  decidable_of_iff
    (Path.Inward model.identity.artifactName ∧ ∀ m ∈ model.modules, Path.Inward m.fileName)
    ⟨fun ⟨a, b⟩ => ⟨a, b⟩, fun ⟨a, b⟩ => ⟨a, b⟩⟩

variable {model : Model}

/-- No two modules of a model that is accepted have the same name and version. -/
theorem identities_distinct (accepted : model.validate = .ok ()) :
    model.modules.Pairwise fun a b => a.identity ≠ b.identity :=
  (validate_eq_ok_iff.1 accepted).distinct

theorem fileNames_distinct (accepted : model.validate = .ok ())
    (plain : ∀ m ∈ model.modules, '@' ∉ m.name.toList) :
    model.modules.Pairwise fun a b => a.fileName ≠ b.fileName := by
  refine (identities_distinct accepted).imp_of_mem ?_
  intro a b first second differ same
  exact differ (SchemaModule.fileName_injective (plain a first) (plain b second) same)

theorem safeName_toList (model : Model) : model.safeName.toList =
    (model.name.toList ++ '_' :: model.version.toList).map fun c => if c = '.' then '_' else c := by
  simp [safeName, Text.substitute]

theorem isName_safeName (unslashed : model.identity.Unslashed) : Path.IsName model.safeName := by
  have text : '/' ∉ (model.name ++ "_" ++ model.version).toList := by
    have name : '/' ∉ model.name.toList := unslashed.name
    have version : '/' ∉ model.version.toList := unslashed.version
    simp [name, version]
  apply Path.IsName.of_mem (c := '_')
  · simp [safeName_toList]
  · decide
  · exact Text.separator_notMem_substitute text (by decide)

theorem isEmpty_safeName (model : Model) : (Path.mk model.safeName).isEmpty = false := by
  simp [Path.isEmpty, safeName_toList]

theorem artifactName_toList (identity : Identity) : identity.artifactName.toList =
    identity.name.toList ++ artifactMarker.toList ++ identity.version.toList := by
  simp [Identity.artifactName]

theorem isName_artifactName {identity : Identity} (unslashed : identity.Unslashed) :
    Path.IsName identity.artifactName := by
  apply Path.IsName.of_mem (c := 's')
  · simp [artifactName_toList, artifactMarker]
  · decide
  · simp [artifactName_toList, artifactMarker, unslashed.name, unslashed.version]

theorem inward_of_identity (unslashed : model.identity.Unslashed)
    (modules : ∀ m ∈ model.modules, Path.Inward m.fileName) : model.Inward where
  artifact := (isName_artifactName unslashed).inward
  modules := modules

theorem Unslashed.inward (unslashed : model.Unslashed) : model.Inward :=
  inward_of_identity unslashed.identity fun m member =>
    (SchemaModule.isName_fileName (unslashed.modules m member)).inward

/-- The name of the directory begins with a slash only if the name of the library does. -/
theorem Inward.relative_safeName (inward : model.Inward) :
    (Path.mk model.safeName).isAbsolute = false := by
  have relative := inward.artifact.relative
  rw [Path.isAbsolute, artifactName_toList] at relative
  rw [Path.isAbsolute, safeName_toList]
  cases shape : model.name.toList with
  | nil => simp
  | cons c rest =>
    have notSlash : c ≠ '/' := by simpa [identity, shape] using relative
    by_cases dot : c = '.' <;> simp [dot, notSlash]

/-- An artifact is told from other names by the text that each artifact's name contains. -/
theorem artifactName_ne {text : String} (unmarked : ¬artifactMarker.toList <:+: text.toList)
    (identity : Identity) : identity.artifactName ≠ text := by
  rintro rfl
  apply unmarked
  rw [artifactName_toList]
  exact ⟨_, _, rfl⟩

end Model

end ModelForge
