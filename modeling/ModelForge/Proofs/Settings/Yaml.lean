import ModelForge.Proofs.Settings.Overlay
import ModelForge.Proofs.Yaml.Document
import ModelForge.Settings.Yaml

/-! Settings in YAML documents. A mapping is read as the defaults with the fields that it holds, and
settings that are written are read back. -/
namespace ModelForge.Settings

open Yaml

variable {node : Node} {name : String} {given : Given} {base : Settings}

section Values

/-- A scalar of any style and tag, or an alias of one. -/
def IsText (node : Node) (text : String) : Prop :=
  ∃ mark tag style, node.target = .scalar mark tag text style

/-- A scalar with a name as its text, or one without text that is tagged with the name. -/
inductive IsName (node : Node) (name : String) : Prop where
  | text {mark : Mark} {tag : Option String} {style : Style}
      (found : node.target = .scalar mark tag name style) (untagged : localTag? tag = none)
  | tag {mark : Mark} {tag : Option String} {text : String}
      (found : node.target = .scalar mark tag text .plain) (tagged : localTag? tag = some name)
      (nothing : text = "" ∨ Plain.isNull text = true)

/-- The nodes that are valid for a value. -/
def YamlValid (field : Field) (node : Node) (value : field.Value) : Prop :=
  if field.isChoice then IsName node (field.text value) else IsText node (field.text value)

theorem anyText_of_isText (expected : String) {text : String} (own : IsText node text) :
    anyText expected node = .ok text := by
  obtain ⟨mark, tag, style, found⟩ := own
  simp only [anyText, found]

theorem choice_of_isName {α : Type} {known : List (String × α)} {value : α} (own : IsName node name)
    (found : known.lookup name = some value) : choice known node = .ok value := by
  have placed_ok (node : Node) (value : α) : placed node (.ok value) = .ok value := by
    cases node <;> rfl
  cases own with
  | text target untagged => simp [choice, target, untagged, found, placed_ok]
  | tag target tagged nothing =>
    have blank := nothing.imp_left String.isEmpty_iff.2
    simp only [choice, target, tagged, found, bind, Except.bind]
    rw [if_pos ⟨trivial, blank⟩]
    exact placed_ok node value

theorem keyText_of_isText {text : String} (own : IsText node text) :
    ∃ place, keyText node = .ok (text, place) := by
  have read := anyText_of_isText "field identifier" own
  obtain ⟨mark, tag, style, found⟩ := own
  match node, found with
  | .scalar _ _ _ _, rfl => exact ⟨_, rfl⟩
  | .alias _ _, _ =>
    refine ⟨"?", ?_⟩
    simp only [keyText, read]
    rfl

/-- Every field has a reader, which takes the nodes that are valid for a value. -/
theorem lookup_field (field : Field) : ∃ change, yamlShape.fields.lookup field.key = some change ∧
    ∀ node value, YamlValid field node value →
      ∃ set, change node = .ok set ∧ ∀ base, set base = base.set field value := by
  cases field with
  | templatePath | outputPath | toolchainVersion =>
    refine ⟨_, rfl, fun node value valid => ?_⟩
    rw [anyText_of_isText _ valid]
    exact ⟨_, rfl, fun _ => rfl⟩
  | mode | copyPolicy =>
    refine ⟨_, rfl, fun node value valid => ?_⟩
    rw [choice_of_isName valid (show _ = some value by cases value <;> rfl)]
    exact ⟨_, rfl, fun _ => rfl⟩

end Values

section Mappings

/-- What the pairs of a mapping hold, whose keys are all texts. -/
def Pairs (pairs : List (Node × Node)) (entries : List (String × Node)) : Prop :=
  List.Forall₂ (fun pair entry => IsText pair.1 entry.1 ∧ pair.2 = entry.2) pairs entries

/-- A document that is a single mapping with texts as its keys. -/
def YamlMapping (text : String) (entries : List (String × Node)) : Prop :=
  ∃ mark tag pairs, Document.ofText text = ⟨.mapping mark tag pairs, none, true⟩ ∧ Pairs pairs entries

theorem recordFields_of_holds {mark : Mark} {seen : List String} {pairs : List (Node × Node)}
    {entries : List (String × Node)} (texts : Pairs pairs entries)
    (holds : Holds YamlValid entries given) (fresh : Fresh given seen) :
    recordFields yamlShape mark seen base pairs = .ok (base.overlay given) := by
  induction texts generalizing seen base given with
  | nil =>
    rw [overlay_nothing holds.nothing]
    rfl
  | @cons pair entry pairs entries own _ ih =>
    obtain ⟨key, value⟩ := pair
    obtain ⟨text, rfl⟩ := own
    obtain ⟨place, read⟩ := keyText_of_isText text
    simp only [recordFields, read, Except.mapError, bind, Except.bind]
    rcases holds.cons_cases with ⟨other, holds⟩ | ⟨field, value, same, found, valid, gone, holds⟩
    · rw [lookup_of_isKey rfl other]
      exact ih holds fresh
    · obtain ⟨change, reader, reads⟩ := lookup_field field
      obtain ⟨set, changes, sets⟩ := reads _ _ valid
      have new : entry.1 ∉ seen := same ▸ fresh field (by simp [found])
      rw [same] at new ⊢
      rw [reader]
      simp only [List.contains_eq_mem, new, decide_false, Bool.false_eq_true, if_false, changes, sets]
      rw [← overlay_set found]
      exact ih holds (fresh.cons field)

/-- A mapping is laid over the defaults. -/
theorem ofYaml_of_holds {text : String} {entries : List (String × Node)}
    (mapping : YamlMapping text entries) (holds : Holds YamlValid entries given) :
    ofYaml text = .ok (({} : Settings).overlay given) := by
  obtain ⟨mark, tag, pairs, read, texts⟩ := mapping
  have record : recordOf yamlShape (.mapping mark tag pairs) = .ok (({} : Settings).overlay given) :=
    recordFields_of_holds texts holds (.nil given)
  simp only [ofYaml, Yaml.record, read, record]
  rfl

theorem isText_of_anyText {expected text : String} (read : anyText expected node = .ok text) :
    IsText node text := by
  simp only [anyText] at read
  split at read
  · exact ⟨_, _, _, by rw [‹node.target = _›, Except.ok.inj read]⟩
  all_goals cases read

theorem isText_of_keyText {text place : String} (read : keyText node = .ok (text, place)) :
    IsText node text := by
  match node, read with
  | .scalar mark tag found style, rfl => exact ⟨mark, tag, style, rfl⟩
  | .alias mark target, read =>
    cases given : anyText "field identifier" (.alias mark target) with
    | error complaint => simp [keyText, given, Except.map] at read
    | ok found =>
      simp only [keyText, given, Except.map, Except.ok.injEq, Prod.mk.injEq] at read
      exact read.1 ▸ isText_of_anyText given

/-- Only mappings whose keys are all texts come to settings. -/
theorem isText_of_recordFields {mark : Mark} {seen : List String} {pairs : List (Node × Node)}
    {settings : Settings} (read : recordFields yamlShape mark seen base pairs = .ok settings) :
    ∀ pair ∈ pairs, ∃ text, IsText pair.1 text := by
  induction pairs generalizing seen base with
  | nil => simp
  | cons pair pairs ih =>
    obtain ⟨key, value⟩ := pair
    cases first : keyText key with
    | error complaint => simp [recordFields, first, Except.mapError, bind, Except.bind] at read
    | ok named =>
      obtain ⟨text, place⟩ := named
      refine List.forall_mem_cons.2 ⟨⟨text, isText_of_keyText first⟩, ?_⟩
      simp only [recordFields, first, Except.mapError, bind, Except.bind] at read
      split at read
      · exact ih read
      · split at read
        · cases read
        · split at read
          · cases read
          · exact ih read

theorem ofYaml_refused {text : String} {mark : Mark} {tag : Option String} {pairs : List (Node × Node)}
    {pair : Node × Node} (read : Document.ofText text = ⟨.mapping mark tag pairs, none, true⟩)
    (member : pair ∈ pairs) (other : ∀ text, ¬IsText pair.1 text) :
    ∃ error, ofYaml text = .error error := by
  cases done : ofYaml text with
  | error error => exact ⟨error, rfl⟩
  | ok settings =>
    simp only [ofYaml, Yaml.record, read] at done
    split at done
    · cases done
    · cases done
    · obtain ⟨text, own⟩ := isText_of_recordFields ‹_› pair member
      exact absurd own (other text)

end Mappings

section Written

/-- The entries of the document of some settings. -/
def yamlEntries (settings : Settings) : List (String × String) :=
  Field.all.map fun field => (field.key, field.text (settings.get field))

theorem toYaml_eq (settings : Settings) :
    settings.toYaml = String.ofList (Scan.mappingText settings.yamlEntries) := rfl

theorem isKey_key (field : Field) : Scan.IsKey field.key.toList := by
  cases field <;> exact ⟨by decide, List.all_iff_forall_prop.1 (by decide), by decide⟩

/-- What is written for a value is valid for it. -/
theorem yamlValid_scalar (mark : Mark) (style : Style) (field : Field) (value : field.Value) :
    YamlValid field (.scalar mark none (field.text value) style) value := by
  rw [YamlValid]
  split
  · exact .text rfl rfl
  · exact ⟨mark, none, style, rfl⟩

/-- The entries that are put together from what is written. -/
theorem gives_of_stands (settings : Settings) (fields : List Field) {pairs : List (Node × Node)}
    (stand : List.Forall₂ Stands pairs
      (fields.map fun field => (field.key, field.text (settings.get field)))) :
    ∃ entries, Pairs pairs entries ∧ List.Forall₂ (Gives YamlValid settings) entries fields := by
  induction fields generalizing pairs with
  | nil =>
    obtain rfl := List.forall₂_nil_right_iff.1 stand
    exact ⟨[], .nil, .nil⟩
  | cons field fields ih =>
    obtain ⟨pair, pairs, ⟨⟨mark, key⟩, place, value⟩, others, rfl⟩ :=
      List.forall₂_cons_right_iff.1 stand
    obtain ⟨entries, texts, gives⟩ := ih others
    refine ⟨(field.key, pair.2) :: entries, .cons ⟨?_, rfl⟩ texts, .cons ⟨rfl, ?_⟩ gives⟩
    · exact ⟨mark, none, .plain, by rw [key]; rfl⟩
    · rw [value]
      exact yamlValid_scalar place _ field _

theorem yamlMapping_toYaml (settings : Settings) : ∃ entries, YamlMapping settings.toYaml entries ∧
    Holds YamlValid entries fun field => some (settings.get field) := by
  have keys : ∀ entry ∈ settings.yamlEntries, Scan.IsKey entry.1.toList := by
    intro entry member
    obtain ⟨field, -, rfl⟩ := List.mem_map.1 member
    exact isKey_key field
  obtain ⟨mark, pairs, read, stand⟩ := ofText_mapping keys
  obtain ⟨entries, texts, gives⟩ := gives_of_stands settings Field.all stand
  exact ⟨entries, ⟨mark, none, pairs, read, texts⟩, holds_of_gives gives⟩

/-- Settings that are written are read back. -/
theorem ofYaml_toYaml (settings : Settings) : ofYaml settings.toYaml = .ok settings := by
  obtain ⟨entries, mapping, holds⟩ := settings.yamlMapping_toYaml
  rw [ofYaml_of_holds mapping holds, overlay_get]

end Written

end ModelForge.Settings
