import ModelForge.Command.Compile
import ModelForge.Proofs.Model.Names

/-! The argument that names a schema module and its file. It is cut at its first `=`, and what
stands before that at its only `@`; nothing is lost at either place, so an argument that is accepted
can be put together again. -/
namespace ModelForge

open Text (cut? cut?_append cut?_eq_none_iff cut?_eq_some)

namespace Identity

/-- Both parts are there, and neither holds the sign between them. -/
structure Keyed (identity : Identity) : Prop where
  named : identity.name ≠ ""
  versioned : identity.version ≠ ""
  name_plain : '@' ∉ identity.name.toList
  version_plain : '@' ∉ identity.version.toList

theorem key_toList (identity : Identity) :
    identity.key.toList = identity.name.toList ++ '@' :: identity.version.toList := by
  simp [key]

theorem ofKey_key {identity : Identity} (keyed : identity.Keyed) :
    ofKey identity.key = .ok identity := by
  have parts : Text.fields '@' identity.key.toList =
      [identity.name.toList, identity.version.toList] := by
    rw [key_toList, Text.fields_append_separator, Text.fields_of_notMem keyed.name_plain,
      Text.fields_of_notMem keyed.version_plain, List.singleton_append]
  simp [ofKey, parts, keyed.named, keyed.versioned]

/-- A text is a key just when it is put together from two parts that can be told apart again. Any
other text is named in the error. -/
theorem ofKey_cases (text : String) :
    (∃ identity : Identity, identity.Keyed ∧ text = identity.key ∧ ofKey text = .ok identity) ∨
      ((∀ identity : Identity, identity.Keyed → text ≠ identity.key) ∧
        ofKey text = .error (.badKey text)) := by
  rcases read : ofKey text with error | identity
  · refine .inr ⟨?_, ?_⟩
    · rintro identity keyed rfl
      rw [ofKey_key keyed] at read
      cases read
    · unfold ofKey at read
      split at read
      · split at read <;> cases read
        rfl
      · cases read
        rfl
  · refine .inl ⟨identity, ?_⟩
    unfold ofKey at read
    split at read
    case h_1 name version parts =>
      split at read
      · cases read
      case isFalse filled =>
        have whole := Text.rejoin_fields '@' text.toList
        have plain := Text.separator_notMem_fields '@' text.toList
        rw [parts] at whole plain
        simp only [Text.rejoin] at whole
        simp only [List.isEmpty_iff, not_or] at filled
        cases read
        refine ⟨⟨?_, ?_, ?_, ?_⟩, ?_, rfl⟩
        · simpa using filled.1
        · simpa using filled.2
        · simpa using plain name (by simp)
        · simpa using plain version (by simp)
        · apply String.toList_inj.1
          simp [key_toList, ← whole]
    case h_2 => cases read

end Identity

namespace Command

/-- What becomes of an argument. Each case is looked for when those before it do not hold. -/
inductive Split (argument : String) : Except ModuleFault (Identity × Path) → Prop where
  | uncut (absent : '=' ∉ argument.toList) : Split argument (.error (.noSeparator argument))
  | badKey {left right : String} (shape : argument = left ++ "=" ++ right)
      (first : '=' ∉ left.toList) (bad : ∀ key : Identity, key.Keyed → left ≠ key.key) :
      Split argument (.error (.badKey (.badKey left)))
  | pathless {key : Identity} (shape : argument = key.key ++ "=") (keyed : key.Keyed)
      (first : '=' ∉ key.key.toList) : Split argument (.error (.emptyPath key))
  | accepted {key : Identity} {path : Path} (shape : argument = key.key ++ "=" ++ path.text)
      (keyed : key.Keyed) (first : '=' ∉ key.key.toList) (named : path.text ≠ "") :
      Split argument (.ok (key, path))

/-- What an argument makes that is cut where its first `=` stands. -/
theorem moduleArgument_cut {left : String} (right : String) (first : '=' ∉ left.toList) :
    moduleArgument (left ++ "=" ++ right) =
      match Identity.ofKey left with
      | .error cause => .error (.badKey cause)
      | .ok key => if right = "" then .error (.emptyPath key) else .ok (key, ⟨right⟩) := by
  have cut : cut? '=' (left ++ "=" ++ right).toList = some (left.toList, right.toList) := by
    simpa using cut?_append right.toList first
  simp only [moduleArgument, cut, String.ofList_toList]
  cases Identity.ofKey left <;> simp

theorem Split.moduleArgument {argument : String} {outcome : Except ModuleFault (Identity × Path)}
    (split : Split argument outcome) : moduleArgument argument = outcome := by
  cases split with
  | uncut absent => simp [Command.moduleArgument, cut?_eq_none_iff.2 absent]
  | @badKey left right shape first bad =>
    subst shape
    rw [moduleArgument_cut right first]
    rcases Identity.ofKey_cases left with ⟨key, keyed, rfl, -⟩ | ⟨-, read⟩
    · exact absurd rfl (bad key keyed)
    · simp [read]
  | @pathless key shape keyed first =>
    have cut := moduleArgument_cut "" first
    simpa [shape, Identity.ofKey_key keyed] using cut
  | @accepted key path shape keyed first named =>
    subst shape
    simp [moduleArgument_cut path.text first, Identity.ofKey_key keyed, named]

theorem exists_split (argument : String) : ∃ outcome, Split argument outcome := by
  rcases cut : cut? '=' argument.toList with _ | ⟨left, right⟩
  · exact ⟨_, .uncut (cut?_eq_none_iff.1 cut)⟩
  · obtain ⟨chars, first⟩ := cut?_eq_some cut
    obtain ⟨left, rfl⟩ : ∃ text : String, left = text.toList := ⟨String.ofList left, by simp⟩
    obtain ⟨right, rfl⟩ : ∃ text : String, right = text.toList := ⟨String.ofList right, by simp⟩
    have shape : argument = left ++ "=" ++ right := by
      apply String.toList_inj.1
      simpa using chars
    rcases Identity.ofKey_cases left with ⟨key, keyed, rfl, -⟩ | ⟨bad, -⟩
    · by_cases empty : right = ""
      · exact ⟨_, .pathless (by simpa [empty] using shape) keyed first⟩
      · have named : (⟨right⟩ : Path).text ≠ "" := empty
        exact ⟨_, .accepted shape keyed first named⟩
    · exact ⟨_, .badKey shape first bad⟩

theorem moduleArgument_eq_iff {argument : String} {outcome : Except ModuleFault (Identity × Path)} :
    moduleArgument argument = outcome ↔ Split argument outcome := by
  obtain ⟨actual, split⟩ := exists_split argument
  constructor
  · rintro rfl
    rwa [split.moduleArgument]
  · exact Split.moduleArgument

/-- An argument is accepted just when it spells a name, an `@`, a version, an `=` and a path, none
of the texts empty and neither sign in the first two; the path may hold both. What it is taken for
spells it again, and two keys that are accepted belong to schema files with different names. Of what
is wrong with any other argument the first thing is reported: that it holds no `=`, that what comes
before its first `=` is no key, that nothing comes behind it. -/
theorem moduleArgument_exact (argument : String) :
    (∀ outcome, moduleArgument argument = outcome ↔ Split argument outcome) ∧
    ((∃ parsed, moduleArgument argument = .ok parsed) ↔ ∃ name version path : String,
      argument = name ++ "@" ++ version ++ "=" ++ path ∧ name ≠ "" ∧ version ≠ "" ∧ path ≠ "" ∧
        ∀ sign ∈ ['@', '='], sign ∉ name.toList ∧ sign ∉ version.toList) ∧
    ∀ key path, moduleArgument argument = .ok (key, path) →
      key.key ++ "=" ++ path.text = argument ∧
      (∀ sign ∈ ['@', '='], sign ∉ key.name.toList ∧ sign ∉ key.version.toList) ∧
      ∀ other key' path', moduleArgument other = .ok (key', path') → key ≠ key' →
        ∀ data data', (key.withData data).fileName ≠ (key'.withData data').fileName := by
  have parts {key : Identity} {path : Path} (read : moduleArgument argument = .ok (key, path)) :
      argument = key.key ++ "=" ++ path.text ∧ key.Keyed ∧ path.text ≠ "" ∧
        ∀ sign ∈ ['@', '='], sign ∉ key.name.toList ∧ sign ∉ key.version.toList := by
    cases moduleArgument_eq_iff.1 read with
    | accepted shape keyed first named =>
      have ⟨_, _, plain, plain'⟩ := keyed
      simp only [Identity.key_toList, List.mem_append, List.mem_cons, not_or] at first
      exact ⟨shape, keyed, named, by simp [plain, plain', first]⟩
  refine ⟨fun outcome => moduleArgument_eq_iff, ⟨?_, ?_⟩, ?_⟩
  · rintro ⟨⟨key, path⟩, read⟩
    obtain ⟨shape, keyed, named, plain⟩ := parts read
    exact ⟨key.name, key.version, path.text, shape, keyed.named, keyed.versioned, named, plain⟩
  · rintro ⟨name, version, path, shape, named, versioned, some, plain⟩
    obtain ⟨⟨at_name, at_version⟩, equals_name, equals_version⟩ :
        ('@' ∉ name.toList ∧ '@' ∉ version.toList) ∧ '=' ∉ name.toList ∧ '=' ∉ version.toList := by
      simpa using plain
    have first : '=' ∉ (Identity.mk name version).key.toList := by
      simp [Identity.key_toList, equals_name, equals_version]
    have split : Split argument (.ok (⟨name, version⟩, ⟨path⟩)) :=
      .accepted shape ⟨named, versioned, at_name, at_version⟩ first some
    exact ⟨_, split.moduleArgument⟩
  · intro key path read
    obtain ⟨shape, keyed, named, plain⟩ := parts read
    refine ⟨shape.symm, plain, fun other key' path' read' differ data data' same => ?_⟩
    cases moduleArgument_eq_iff.1 read' with
    | accepted shape' keyed' first' named' =>
      exact differ (SchemaModule.fileName_injective keyed.name_plain keyed'.name_plain same)

theorem moduleArgument_exact_sample :
    moduleArgument "a@1=p=q@r" = .ok (⟨"a", "1"⟩, ⟨"p=q@r"⟩) ∧
      moduleArgument "a@1.0=p" = .ok (⟨"a", "1.0"⟩, ⟨"p"⟩) ∧
      (Identity.withData ⟨"a", "1"⟩ .empty).fileName ≠
        (Identity.withData ⟨"a", "1.0"⟩ .empty).fileName := by
  have first : moduleArgument "a@1=p=q@r" = .ok (⟨"a", "1"⟩, ⟨"p=q@r"⟩) := by rfl
  have second : moduleArgument "a@1.0=p" = .ok (⟨"a", "1.0"⟩, ⟨"p"⟩) := by rfl
  obtain ⟨-, -, accepted⟩ := moduleArgument_exact "a@1=p=q@r"
  obtain ⟨-, -, apart⟩ := accepted _ _ first
  exact ⟨first, second, apart _ _ _ second (by decide) _ _⟩

end Command

end ModelForge
