import ModelForge.Proofs.Json.Quoted
import ModelForge.Proofs.Settings.Json
import ModelForge.Proofs.Settings.Yaml

/-! Settings documents in both formats. What a document is read as depends on the fields that it
gives, and neither on their order nor on its other keys. -/
namespace ModelForge.Settings

open Json Reader Yaml

variable {text : String} {given : Given}

/-- Only the entries of the fields matter, in whatever order. -/
theorem ofYaml_of_perm {entries held : List (String × Node)} (mapping : YamlMapping text entries)
    (same : (entries.filter (isKey ·.1)).Perm (held.filter (isKey ·.1)))
    (holds : Holds YamlValid held given) : ofYaml text = .ok (({} : Settings).overlay given) :=
  ofYaml_of_holds mapping (holds.of_perm same)

theorem ofJson_of_perm {entries held : List (String × List Char)} (object : JsonObject text entries)
    (same : (entries.filter (isKey ·.1)).Perm (held.filter (isKey ·.1)))
    (holds : Holds JsonValid held given) : ofJson text = .ok (({} : Settings).overlay given) :=
  ofJson_of_holds object (holds.of_perm same)

/-- Settings that are written are read back. A mapping whose keys are texts, with the entries of some
fields in any order and others between them, is read as the defaults with these fields. -/
theorem documents_overlaid (given : Given) :
    (∀ settings : Settings, ofYaml settings.toYaml = .ok settings) ∧
    (∀ text entries held, YamlMapping text entries →
      (entries.filter (isKey ·.1)).Perm (held.filter (isKey ·.1)) → Holds YamlValid held given →
      ofYaml text = .ok (({} : Settings).overlay given)) ∧
    (∀ text entries held, JsonObject text entries →
      (entries.filter (isKey ·.1)).Perm (held.filter (isKey ·.1)) → Holds JsonValid held given →
      ofJson text = .ok (({} : Settings).overlay given)) :=
  ⟨ofYaml_toYaml, fun _ _ _ => ofYaml_of_perm, fun _ _ _ => ofJson_of_perm⟩

/-- Whether a document is a mapping whose only key is a sequence. -/
def hasSequenceKey : Document → Bool
  | ⟨.mapping _ _ [(.sequence .., _)], none, true⟩ => true
  | _ => false

/-- A key that is no text is the key of no field, and still the document is refused. -/
theorem sequenceKey_refused : ∃ mark tag pairs,
    Document.ofText "? [a]\n: 1\n" = ⟨.mapping mark tag pairs, none, true⟩ ∧
      (∀ pair ∈ pairs, ∀ field : Field, ¬IsText pair.1 field.key) ∧
      ofYaml "? [a]\n: 1\n" ≠ .ok {} := by
  have shape : hasSequenceKey (Document.ofText "? [a]\n: 1\n") = true := by decide +kernel
  unfold hasSequenceKey at shape
  split at shape
  case h_1 mark tag place own items value read =>
    have other (text : String) : ¬IsText (.sequence place own items) text := by
      rintro ⟨_, _, _, found⟩
      cases found
    obtain ⟨error, refused⟩ := ofYaml_refused read List.mem_cons_self other
    refine ⟨mark, tag, _, read, List.forall_mem_singleton.2 fun field => other field.key, ?_⟩
    rw [refused]
    intro same
    cases same
  case h_2 => cases shape

section Samples

def sampleGiven : Given
  | .outputPath => some ⟨"out"⟩
  | .mode => some .binary
  | _ => none

def sampleYaml : String := "mode: binary\nextra: [1]\noutput_path: out\n"

def sampleJson : String := "\x7b\"mode\": \"binary\",\"extra\": [1],\"output_path\": \"out\"\x7d\n"

def sampleMembers : List (String × List Char) := [
  ("mode", "\"binary\"".toList), ("extra", "[1]".toList), ("output_path", "\"out\"".toList)]

/-- Whether a document has the entries of the sample. -/
def isSampleMapping : Document → Bool
  | ⟨.mapping _ _ [(.scalar _ _ mode _, .scalar _ none binary _), (.scalar _ _ extra _, _),
      (.scalar _ _ output _, .scalar _ _ path _)], none, true⟩ =>
    mode = "mode" ∧ binary = "binary" ∧ extra = "extra" ∧ output = "output_path" ∧ path = "out"
  | _ => false

theorem yamlMapping_sample :
    ∃ entries, YamlMapping sampleYaml entries ∧ Holds YamlValid entries.reverse sampleGiven := by
  have shape : isSampleMapping (Document.ofText sampleYaml) = true := by decide +kernel
  unfold isSampleMapping at shape
  split at shape
  case h_1 _ _ _ _ _ _ first _ kind _ _ _ _ value _ _ _ _ last tag _ style read =>
    obtain ⟨rfl, rfl, rfl, rfl, rfl⟩ := of_decide_eq_true shape
    refine ⟨[("mode", .scalar first none "binary" kind), ("extra", value),
      ("output_path", .scalar last tag "out" style)], ⟨_, _, _, read, ?_⟩, ?_, ?_⟩
    · exact .cons ⟨⟨_, _, _, rfl⟩, rfl⟩ (.cons ⟨⟨_, _, _, rfl⟩, rfl⟩
        (.cons ⟨⟨_, _, _, rfl⟩, rfl⟩ .nil))
    · intro field value found
      cases field <;> cases found
      · exact ⟨_, ⟨_, _, _, rfl⟩, rfl⟩
      · exact ⟨_, .text rfl rfl, rfl⟩
    · intro field missing
      cases field with
      | outputPath | mode => cases missing
      | templatePath | toolchainVersion | copyPolicy => simp [Field.key]
  case h_2 => cases shape

theorem quoted_sample (s : String) (plain : s.toList.flatMap escape = s.toList) :
    IsQuoted ('"' :: (s.toList ++ ['"'])) s := ⟨s.toList, spelled_plain plain, rfl⟩

theorem isBlank_nil : IsBlank [] := by simp [IsBlank]

theorem member_sample (key : String) {value : List Char} (plain : key.toList.flatMap escape = key.toList)
    (own : IsJson none value) :
    IsMember ('"' :: (key.toList ++ '"' :: ':' :: ' ' :: value)) (key, value) := by
  have blank : IsBlank [' '] := by simp [IsBlank]
  simpa using IsMember.mk isBlank_nil (spelled_plain plain) isBlank_nil blank own isBlank_nil

theorem jsonObject_sample : JsonObject sampleJson sampleMembers := by
  have digit : IsWhole ['1'] := .digits (by decide) (by decide) (by simp)
  have one : IsNumber (['1'] ++ ([] ++ [])) := .mk digit .none .none
  have list : IsJson none "[1]".toList := .filled isBlank_nil (.last .list (.number one) isBlank_nil)
  have mode := member_sample "mode" rfl (quoted_sample "binary" rfl).isJson
  have extra := member_sample "extra" rfl list
  have output := member_sample "output_path" rfl (quoted_sample "out" rfl).isJson
  have end_ : IsBlank ['\n'] := by simp [IsBlank]
  exact ⟨[], _, ['\n'], rfl, isBlank_nil, .members mode (.cons extra (.cons output .nil)), end_⟩

theorem holds_sampleMembers : Holds JsonValid sampleMembers.reverse sampleGiven := by
  refine ⟨fun field value found => ?_, fun field missing => ?_⟩
  · cases field <;> cases found
    · exact ⟨_, quoted_sample "out" rfl, rfl⟩
    · exact ⟨_, .text (quoted_sample "binary" rfl), rfl⟩
  · cases field with
    | outputPath | mode => cases missing
    | templatePath | toolchainVersion | copyPolicy => decide

theorem documents_overlaid_sample :
    ofYaml sampleYaml = .ok { outputPath := ⟨"out"⟩, mode := .binary } ∧
      ofJson sampleJson = .ok { outputPath := ⟨"out"⟩, mode := .binary } := by
  obtain ⟨-, yaml, json⟩ := documents_overlaid sampleGiven
  have reversed {V : Type} (entries : List (String × V)) :
      (entries.filter (isKey ·.1)).Perm (entries.reverse.filter (isKey ·.1)) :=
    (List.reverse_perm entries).symm.filter _
  obtain ⟨entries, mapping, holds⟩ := yamlMapping_sample
  exact ⟨yaml _ _ _ mapping (reversed _) holds,
    json _ _ _ jsonObject_sample (reversed _) holds_sampleMembers⟩

end Samples

end ModelForge.Settings
