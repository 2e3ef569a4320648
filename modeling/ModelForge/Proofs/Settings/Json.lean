import ModelForge.Proofs.Json.Object
import ModelForge.Proofs.Settings.Overlay
import ModelForge.Settings.Json

/-! Settings in JSON documents. An object is read as the defaults with the fields that it holds. -/
namespace ModelForge.Settings

open Json Reader

variable {written : List Char} {given : Given} {base : Settings}

section Values

/-- A string between its quotes. -/
def IsQuoted (written : List Char) (text : String) : Prop :=
  ∃ spelled, Spelled spelled text.toList ∧ written = '"' :: (spelled ++ ['"'])

/-- A name as a string, or an object whose only key is the name and whose value is null. -/
inductive IsChoice : List Char → String → Prop where
  | text {written : List Char} {name : String} (own : IsQuoted written name) : IsChoice written name
  | object {before key gap between after : List Char} {name : String} (first : IsBlank before)
      (own : IsQuoted key name) (second : IsBlank gap) (third : IsBlank between) (last : IsBlank after) :
      IsChoice ('\x7b' :: (before ++ (key ++ (gap ++ ':' :: (between ++ ("null".toList ++
        (after ++ ['\x7d']))))))) name

/-- What may be written for a value. -/
def JsonValid (field : Field) (written : List Char) (value : field.Value) : Prop :=
  if field.isChoice then IsChoice written (field.text value) else IsQuoted written (field.text value)

theorem IsQuoted.head {text : String} (own : IsQuoted written text) :
    ∃ more, utf8 written = byte '"' :: more := by
  obtain ⟨spelled, -, rfl⟩ := own
  exact ⟨_, utf8_cons (by decide) _⟩

theorem IsQuoted.isJson {text : String} (own : IsQuoted written text) : IsJson none written := by
  obtain ⟨spelled, reads, rfl⟩ := own
  exact .string reads.raw

/-- What may be written for a value is a value. -/
theorem isJson_of_jsonValid {field : Field} {value : field.Value} (valid : JsonValid field written value) :
    IsJson none written := by
  rw [JsonValid] at valid
  split at valid
  · cases valid with
    | text own => exact own.isJson
    | @object before key gap between after _ first own second third last =>
      obtain ⟨spelled, reads, rfl⟩ := own
      have label : IsLabel .object ('"' :: (spelled ++ '"' :: (gap ++ ':' :: between))) :=
        .object reads.raw second third
      have null : IsJson none "null".toList := .word List.mem_cons_self
      have whole := IsJson.filled first (.last label null last)
      simpa [Bracket.opens, Bracket.closes] using whole
  · exact valid.isJson

theorem takes_text_of_isQuoted {α : Type} {text : String} {value : α} {expected : String}
    {check : String → Except Mismatch α} (own : IsQuoted written text) (valid : check text = .ok value)
    (rest : List UInt8) : Takes (Reader.text expected check) (utf8 written) rest value := by
  obtain ⟨spelled, reads, rfl⟩ := own
  have whole : utf8 ('"' :: (spelled ++ ['"'])) = byte '"' :: (utf8 spelled ++ [byte '"']) := by
    rw [utf8_cons (by decide), utf8_append]
    rfl
  rw [whole]
  refine .placed (Takes.valueStart (by decide) |>.bind_looking ?_)
  rw [if_pos rfl]
  refine .bind_byte .skip ((takes_string reads rest).bind_done ?_)
  rw [valid]
  exact .pure rest value

theorem takes_null (expected : String) (rest : List UInt8) :
    Takes (null expected) (utf8 "null".toList) rest () := by
  refine .placed (Takes.valueStart (by decide) |>.bind_looking ?_)
  exact .bind_byte .skip (fun _ => rfl)

theorem skipsBlanks_null (expected : String) : SkipsBlanks (null expected) :=
  ((skipsBlanks_peekSolid.bind _).bind _).placed

/-- A name of a few, in quotes. -/
theorem takes_named {α : Type} {known : List (String × α)} {name : String} {value : α}
    (own : IsQuoted written name) (found : known.lookup name = some value) (rest : List UInt8) :
    Takes (Reader.text "variant identifier" fun s =>
      match known.lookup s with
      | some value => .ok value
      | none => .error (.unknownVariant s (known.map Prod.fst))) (utf8 written) rest value :=
  takes_text_of_isQuoted own (by simp only [found]) rest

theorem takes_choice_of_isChoice {α : Type} {known : List (String × α)} {name : String} {value : α}
    (own : IsChoice written name) (found : known.lookup name = some value) (rest : List UInt8) :
    Takes (choice known) (utf8 written) rest value := by
  cases own with
  | text own =>
    obtain ⟨spelled, start⟩ := own.head
    have read := takes_named own found rest
    rw [start] at read ⊢
    exact Takes.bind_looking (Takes.peekSolid (by decide)) read
  | @object before key gap between after _ first own second third last =>
    have whole : utf8 ('\x7b' :: (before ++ (key ++ (gap ++ ':' :: (between ++ ("null".toList ++
        (after ++ ['\x7d']))))))) = byte '\x7b' :: (utf8 before ++ (utf8 key ++ (utf8 gap ++
          byte ':' :: (utf8 between ++ utf8 "null".toList ++ (utf8 after ++ [byte '\x7d']))))) := by
      simp (disch := decide) only [utf8_append, utf8_cons, List.append_assoc]
      rfl
    obtain ⟨spelled, start⟩ := own.head
    have read (rest : List UInt8) := takes_named own found rest
    have quote (rest : List UInt8) : Takes choiceKey (utf8 before) (byte '"' :: rest) () :=
      (takes_sign first rfl).bind_done (.pure _ ())
    have null := (skipsBlanks_null _).takes third (takes_null "unit" (utf8 after ++ [byte '\x7d'] ++ rest))
    simp only [start] at whole read
    rw [whole]
    refine Takes.bind_looking (Takes.peekSolid (by decide)) ?_
    refine .bind_byte .skip ((quote _).bind ((read _).bind ?_))
    refine (takes_sign second rfl).bind (.bind_byte .skip (null.bind ?_))
    exact (takes_sign last rfl).bind (.bind_byte .skip (.pure rest value))

/-- Every field has a reader, which takes what may be written for a value. -/
theorem lookup_jsonField (field : Field) : ∃ reader, jsonShape.fields.lookup field.key = some reader ∧
    SkipsBlanks reader ∧ ∀ written value, JsonValid field written value →
      ∃ set, (∀ rest, Takes reader (utf8 written) rest set) ∧ ∀ base, set base = base.set field value := by
  have skips {α : Type} (expected : String) (check : String → Except Mismatch α) :
      SkipsBlanks (Reader.text expected check) := ((skipsBlanks_peekSolid.bind _).bind _).placed
  cases field with
  | templatePath | outputPath | toolchainVersion =>
    refine ⟨_, rfl, (skips _ _).bind _, fun written value valid => ⟨_, fun rest => ?_, fun _ => rfl⟩⟩
    exact (takes_text_of_isQuoted valid rfl rest).bind_done (.pure rest _)
  | mode | copyPolicy =>
    refine ⟨_, rfl, (skipsBlanks_peekSolid.bind _).bind _, fun written value valid =>
      ⟨_, fun rest => ?_, fun _ => rfl⟩⟩
    exact (takes_choice_of_isChoice valid (show _ = some value by cases value <;> rfl)
      rest).bind_done (.pure rest _)

end Values

section Objects

/-- A document that is a single object. -/
def JsonObject (text : String) (entries : List (String × List Char)) : Prop :=
  ∃ before inside after, text.toList = before ++ '\x7b' :: (inside ++ '\x7d' :: after) ∧
    IsBlank before ∧ IsObject inside entries ∧ IsBlank after

theorem reads_of_holds {seen : List String} {entries : List (String × List Char)}
    (holds : Holds JsonValid entries given) (fresh : Fresh given seen) :
    Reads jsonShape seen entries base (base.overlay given) := by
  induction entries generalizing seen base given with
  | nil =>
    rw [overlay_nothing holds.nothing]
    exact .nil (by simp [jsonShape])
  | cons entry entries ih =>
    rcases holds.cons_cases with ⟨other, holds⟩ | ⟨field, value, same, found, valid, gone, holds⟩
    · exact .cons (.other (lookup_of_isKey rfl other)) (ih holds fresh)
    · obtain ⟨reader, known, skips, reads⟩ := lookup_jsonField field
      obtain ⟨set, takes, sets⟩ := reads _ _ valid
      have new : entry.1 ∉ seen := same ▸ fresh field (by simp [found])
      refine .cons (.field (same ▸ known) new skips takes) ?_
      rw [sets, ← overlay_set found]
      exact same ▸ ih holds (fresh.cons field)

/-- An object is laid over the defaults. -/
theorem ofJson_of_holds {text : String} {entries : List (String × List Char)}
    (document : JsonObject text entries) (holds : Holds JsonValid entries given) :
    ofJson text = .ok (({} : Settings).overlay given) := by
  obtain ⟨before, inside, after, written, first, object, last⟩ := document
  have whole : Text.bytes text = utf8 (before ++ '\x7b' :: (inside ++ '\x7d' :: after)) := by
    rw [Text.bytes_eq_flatMap, written]
  change Json.readDocument _ (Text.bytes text) = _
  rw [whole]
  exact readDocument_object first object last (reads_of_holds holds (.nil given))

end Objects

end ModelForge.Settings
