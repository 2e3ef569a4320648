import Mathlib.Data.List.Forall2
import ModelForge.Proofs.Json.Passing

/-! Records are read from objects. Members may stand in any order, unknown ones are passed over, and
the known ones change what the record starts as. -/
namespace ModelForge.Json.Reader

variable {σ : Type} {shape : Shape σ} {seen : List String} {record result : σ}
  {text blank : List Char} {more rest : List UInt8} {limit : Nat}

section Grammar

/-- A key with its value, and the blanks around both. -/
inductive IsMember : List Char → String × List Char → Prop where
  | mk {lead name gap before value after : List Char} {key : String} (first : IsBlank lead)
      (spelled : Spelled name key.toList) (second : IsBlank gap) (third : IsBlank before)
      (own : IsJson none value) (last : IsBlank after) :
      IsMember (lead ++ '"' :: (name ++ '"' :: (gap ++ ':' :: (before ++ (value ++ after)))))
        (key, value)

/-- What stands between the brackets of an object. -/
inductive IsObject : List Char → List (String × List Char) → Prop where
  | empty {blank : List Char} (own : IsBlank blank) : IsObject blank []
  | members {text : List Char} {texts : List (List Char)} {entry : String × List Char}
      {entries : List (String × List Char)} (first : IsMember text entry)
      (others : List.Forall₂ IsMember texts entries) :
      IsObject (text ++ texts.flatMap (',' :: ·)) (entry :: entries)

end Grammar

section Members

/-- What a member comes to: an unknown one changes nothing, and that of a field changes the record. -/
inductive Step (shape : Shape σ) (seen : List String) :
    String × List Char → List String → (σ → σ) → Prop where
  | other {key : String} {value : List Char} (unknown : shape.fields.lookup key = none) :
      Step shape seen (key, value) seen id
  | field {key : String} {value : List Char} {field : Reader (σ → σ)} {change : σ → σ}
      (known : shape.fields.lookup key = some field) (new : key ∉ seen) (skips : SkipsBlanks field)
      (takes : ∀ rest, Takes field (utf8 value) rest change) :
      Step shape seen (key, value) (key :: seen) change

/-- Members that come to a whole record. -/
inductive Reads (shape : Shape σ) : List String → List (String × List Char) → σ → σ → Prop where
  | nil {seen : List String} {record : σ} (complete : ∀ name ∈ shape.required, name ∈ seen) :
      Reads shape seen [] record record
  | cons {seen later : List String} {entry : String × List Char} {record result : σ}
      {entries : List (String × List Char)} {change : σ → σ} (step : Step shape seen entry later change)
      (others : Reads shape later entries (change record) result) :
      Reads shape seen (entry :: entries) record result

/-- The next sign behind blanks. -/
theorem takes_sign {b : UInt8} (own : IsBlank blank) (solid : isSpace b = false) :
    Takes peekSolid (utf8 blank) (b :: rest) (some b) := by
  simpa using skipsBlanks_peekSolid.takes own (Takes.peekSolid solid)

/-- What stands between a member and what comes before it in the brackets. -/
def separator (first : Bool) : List UInt8 := if first then [] else [byte ',']

theorem takes_nextKey (first : Bool) (own : IsBlank blank) :
    Takes (nextKey first) (separator first ++ utf8 blank) (byte '"' :: rest) true := by
  have quote := @takes_sign blank rest _ own (show isSpace (byte '"') = false from rfl)
  cases first with
  | true => exact quote.bind_done (.pure _ true)
  | false =>
    change Takes (nextKey false) (byte ',' :: utf8 blank) _ true
    refine Takes.bind_looking (Takes.peekSolid (by decide)) ?_
    exact .bind_byte .skip (quote.bind_done (.pure _ true))

theorem takes_nextKey_end (first : Bool) (own : IsBlank blank) :
    Takes (nextKey first) (utf8 blank) (byte '\x7d' :: rest) false :=
  (takes_sign own rfl).bind_done (.pure _ false)

theorem skipsBlanks_objectFields (first : Bool) :
    SkipsBlanks (objectFields shape seen record (limit + 1) first) :=
  (skipsBlanks_peekSolid.bind _).bind _

/-- One member, and the rest of the object. -/
theorem takes_objectFields_cons {first : Bool} {later : List String} {entry : String × List Char}
    {change : σ → σ} (member : IsMember text entry) (step : Step shape seen entry later change)
    (ends : Ends (more ++ rest))
    (others : Takes (objectFields shape later (change record) (limit + 1) false) more rest result) :
    Takes (objectFields shape seen record (limit + 2) first)
      (separator first ++ (utf8 text ++ more)) rest result := by
  obtain @⟨lead, name, gap, before, value, after, key, leads, spelled, second, third, own, last⟩ :=
    member
  have whole : separator first ++ (utf8 (lead ++ '"' :: (name ++ '"' :: (gap ++ ':' :: (before ++
      (value ++ after))))) ++ more) = (separator first ++ utf8 lead) ++ (byte '"' ::
        ((utf8 name ++ [byte '"']) ++ ((utf8 gap ++ [byte ':']) ++ ((utf8 before ++ utf8 value) ++
          (utf8 after ++ more))))) := by
    simp (disch := decide) only [utf8_append, utf8_cons, List.cons_append, List.append_assoc,
      List.nil_append]
  have behind := (skipsBlanks_objectFields false).takes last others
  rw [whole]
  refine (takes_nextKey first leads).bind (.bind_byte .skip ((takes_string spelled _).bind ?_))
  cases step with
  | other unknown =>
    simp only [unknown]
    have ended : Ends (utf8 after ++ more ++ rest) := by
      rw [List.append_assoc]
      exact ends.after_blank last
    exact (takes_colon second).bind ((takes_ignoreValue third own ended).bind behind)
  | field known new skips takes =>
    simp only [known, List.contains_eq_mem, new, decide_false, Bool.false_eq_true, if_false]
    exact (takes_colon second).bind ((skips.takes third (takes _)).bind behind)

theorem takes_objectFields_nil (first : Bool) (own : IsBlank blank)
    (complete : ∀ name ∈ shape.required, name ∈ seen) :
    Takes (objectFields shape seen record (limit + 1) first) (utf8 blank) (byte '\x7d' :: rest)
      record := by
  refine (takes_nextKey_end first own).bind_done ?_
  have found : shape.required.find? (!seen.contains ·) = none := by simpa using complete
  simp only [Bool.false_eq_true, if_false, found]
  exact .pure _ record

theorem utf8_members (text : List Char) (texts : List (List Char)) :
    utf8 ((text :: texts).flatMap (',' :: ·)) =
      separator false ++ (utf8 text ++ utf8 (texts.flatMap (',' :: ·))) := by
  rw [List.flatMap_cons, List.cons_append, utf8_cons (by decide), utf8_append]
  rfl

theorem ends_members (texts : List (List Char)) (rest : List UInt8) :
    Ends (utf8 (texts.flatMap (',' :: ·)) ++ byte '\x7d' :: rest) := by
  cases texts with
  | nil => exact ends_sign (.inr (.inr rfl))
  | cons text texts =>
    rw [utf8_members]
    exact ends_sign (.inl rfl)

/-- The members behind the first one. -/
theorem takes_objectFields {texts : List (List Char)} {entries : List (String × List Char)}
    (members : List.Forall₂ IsMember texts entries) (reads : Reads shape seen entries record result)
    (enough : entries.length < limit) :
    Takes (objectFields shape seen record limit false) (utf8 (texts.flatMap (',' :: ·)))
      (byte '\x7d' :: rest) result := by
  induction members generalizing seen record limit with
  | nil =>
    obtain ⟨limit, rfl⟩ := Nat.exists_eq_add_one_of_ne_zero (Nat.ne_zero_of_lt enough)
    obtain ⟨complete⟩ := reads
    exact takes_objectFields_nil false (by simp [IsBlank]) complete
  | @cons text entry texts entries member members ih =>
    obtain ⟨limit, rfl⟩ : ∃ spare, limit = spare + 2 :=
      ⟨limit - 2, by simp only [List.length_cons] at enough; omega⟩
    cases reads with
    | cons step others =>
      have behind := ih others (by simpa using enough : entries.length < limit + 1)
      rw [utf8_members]
      exact takes_objectFields_cons member step (ends_members texts rest) behind

end Members

section Objects

theorem takes_endObject : Takes endObject [byte '\x7d'] rest () :=
  Takes.bind_looking (Takes.peekSolid (by decide)) .skip

theorem length_members {texts : List (List Char)} {entries : List (String × List Char)}
    (members : List.Forall₂ IsMember texts entries) :
    entries.length ≤ (texts.flatMap (',' :: ·)).length := by
  induction members with
  | nil => exact Nat.le_refl 0
  | cons member members ih =>
    simp only [List.flatMap_cons, List.length_append, List.length_cons]
    omega

theorem takes_record {entries : List (String × List Char)} (object : IsObject text entries)
    (reads : Reads shape [] entries shape.start result) :
    Takes (Reader.record shape) (byte '\x7b' :: (utf8 text ++ [byte '\x7d'])) rest result := by
  refine .placed (Takes.valueStart (by decide) |>.bind_looking ?_)
  refine .bind_byte .skip (.get fun taken => .closing ?_ takes_endObject)
  cases object with
  | empty own =>
    obtain ⟨complete⟩ := reads
    exact takes_objectFields_nil true own complete
  | @members text texts entry entries member members =>
    cases reads with
    | cons step others =>
      have few := length_members members
      have longer := length_le_utf8 (texts.flatMap (',' :: ·))
      obtain ⟨limit, enough, spare⟩ : ∃ limit, (utf8 (text ++ texts.flatMap (',' :: ·)) ++
          [byte '\x7d'] ++ rest).length + 1 = limit + 2 ∧ entries.length < limit + 1 := by
        refine ⟨(utf8 text ++ utf8 (texts.flatMap (',' :: ·)) ++ rest).length, ?_, ?_⟩
        · simp only [utf8_append, List.length_append, List.length_singleton]
          omega
        · simp only [List.length_append]
          omega
      rw [enough, utf8_append]
      exact takes_objectFields_cons member step (ends_members texts rest)
        (takes_objectFields members others spare)

/-- A document with blanks before and behind the object. -/
theorem readDocument_object {entries : List (String × List Char)} {before after : List Char}
    (first : IsBlank before) (object : IsObject text entries) (last : IsBlank after)
    (reads : Reads shape [] entries shape.start result) :
    readDocument (Reader.record shape) (utf8 (before ++ '\x7b' :: (text ++ '\x7d' :: after))) =
      .ok result := by
  have skips : SkipsBlanks (Reader.record shape) := ((skipsBlanks_peekSolid.bind _).bind _).placed
  have whole : utf8 (before ++ '\x7b' :: (text ++ '\x7d' :: after)) =
      utf8 before ++ (byte '\x7b' :: (utf8 text ++ [byte '\x7d'])) ++ utf8 after := by
    simp (disch := decide) only [utf8_append, utf8_cons, List.cons_append, List.append_assoc,
      List.nil_append]
  rw [whole]
  exact readDocument_of_takes_blank (skips.takes first (takes_record object reads)) last.bytes

end Objects

end ModelForge.Json.Reader
