import ModelForge.Proofs.Json.Number

/-! Values of any kind are passed over. The brackets around a value lie on a stack, so what is shown
about a value says how the reader goes on behind it. -/
namespace ModelForge.Json.Reader

variable {α β : Type} {reader : Reader α} {front rest : List UInt8} {value : α}
  {text blank : List Char} {bracket : Bracket} {outer : List Bracket} {limit : Nat}

section Blanks

/-- Blanks between the signs of a document. -/
def IsBlank (text : List Char) : Prop := ∀ c ∈ text, c = ' ' ∨ c = '\n' ∨ c = '\t' ∨ c = '\r'

theorem IsBlank.bytes (own : IsBlank blank) : ∀ b ∈ utf8 blank, isSpace b = true := by
  intro b member
  obtain ⟨c, inside, member⟩ := List.mem_flatMap.1 member
  rcases own c inside with rfl | rfl | rfl | rfl
  all_goals
    obtain rfl := List.mem_singleton.1 member
    rfl

/-- Blanks that come first make no difference, apart from being taken. -/
def SkipsBlanks (reader : Reader α) : Prop :=
  ∀ blank, (∀ b ∈ blank, isSpace b = true) → ∀ taken rest,
    reader.run.run ⟨taken, blank ++ rest⟩ = reader.run.run ⟨taken + blank.length, rest⟩

theorem skipsBlanks_peekSolid : SkipsBlanks peekSolid := by
  intro blank own taken rest
  have taken_all (taken : Nat) (rest : List UInt8) : peekSolid.run.run ⟨taken, rest⟩ =
      (.ok (rest.dropWhile isSpace).head?,
        ⟨taken + (rest.takeWhile isSpace).length, rest.dropWhile isSpace⟩) := rfl
  rw [taken_all, taken_all, List.takeWhile_append_of_pos own, List.dropWhile_append_of_pos own,
    List.length_append, Nat.add_assoc]

theorem SkipsBlanks.bind (skips : SkipsBlanks reader) (next : α → Reader β) :
    SkipsBlanks (reader >>= next) := by
  intro blank own taken rest
  rw [Action.run_bind, Action.run_bind, skips blank own]

theorem SkipsBlanks.placed (skips : SkipsBlanks reader) : SkipsBlanks (placed reader) := by
  intro blank own taken rest
  have same := skips blank own taken rest
  simp only [Reader.placed, tryCatchThe, MonadExceptOf.tryCatch, ExceptT.tryCatch, ExceptT.run_mk]
  rw [StateT.run_bind, StateT.run_bind]
  erw [same]
  rfl

theorem SkipsBlanks.takes (skips : SkipsBlanks reader) (own : IsBlank blank)
    (takes : Takes reader front rest value) : Takes reader (utf8 blank ++ front) rest value := by
  intro taken
  rw [List.append_assoc, skips _ own.bytes, takes, List.length_append, Nat.add_assoc]

theorem skipsBlanks_passOver (limit : Nat) : SkipsBlanks (passOver .before outer (limit + 1)) :=
  skipsBlanks_peekSolid.bind _

theorem Ends.after_blank (own : IsBlank blank) (ends : Ends rest) : Ends (utf8 blank ++ rest) := by
  cases blank with
  | nil => exact ends
  | cons c text =>
    intro b found
    refine .inl (own.bytes b ?_)
    rcases own c List.mem_cons_self with rfl | rfl | rfl | rfl
    all_goals
      obtain rfl := Option.some.inj found
      exact List.mem_cons_self

end Blanks

section Grammar

def Bracket.opens : Bracket → Char
  | .list => '['
  | .object => '\x7b'

def Bracket.closes : Bracket → Char
  | .list => ']'
  | .object => '\x7d'

theorem utf8_enclosed (bracket : Bracket) (text : List Char) (front : List UInt8) :
    utf8 (bracket.opens :: (text ++ [bracket.closes])) ++ front =
      byte bracket.opens :: (utf8 text ++ byte bracket.closes :: front) := by
  have low : bracket.opens.toNat < 128 ∧ bracket.closes.toNat < 128 := by cases bracket <;> decide
  rw [utf8_cons low.1, utf8_append, utf8_cons low.2, List.cons_append, List.append_assoc]
  rfl

/-- What comes in front of a value in a bracket. -/
inductive IsLabel : Bracket → List Char → Prop where
  | list : IsLabel .list []
  | object {key gap before : List Char} (raw : Raw key) (first : IsBlank gap)
      (second : IsBlank before) : IsLabel .object ('"' :: (key ++ '"' :: (gap ++ ':' :: before)))

/-- A value, or what fills a bracket up to its end. -/
inductive IsJson : Option Bracket → List Char → Prop where
  | word {text : String} (own : text ∈ ["null", "true", "false"]) : IsJson none text.toList
  | number {text : List Char} (number : IsNumber text) : IsJson none text
  | negative {text : List Char} (number : IsNumber text) : IsJson none ('-' :: text)
  | string {text : List Char} (raw : Raw text) : IsJson none ('"' :: (text ++ ['"']))
  | empty (bracket : Bracket) {blank : List Char} (own : IsBlank blank) :
      IsJson none (bracket.opens :: (blank ++ [bracket.closes]))
  | filled {bracket : Bracket} {blank text : List Char} (own : IsBlank blank)
      (inside : IsJson (some bracket) text) :
      IsJson none (bracket.opens :: (blank ++ (text ++ [bracket.closes])))
  | last {bracket : Bracket} {label text after : List Char} (labels : IsLabel bracket label)
      (value : IsJson none text) (own : IsBlank after) : IsJson (some bracket) (label ++ (text ++ after))
  | more {bracket : Bracket} {label text after before others : List Char}
      (labels : IsLabel bracket label) (value : IsJson none text) (own : IsBlank after)
      (next : IsBlank before) (behind : IsJson (some bracket) others) :
      IsJson (some bracket) (label ++ (text ++ (after ++ ',' :: (before ++ others))))

theorem IsNumber.head (number : IsNumber text) :
    ∃ b more, utf8 text = b :: more ∧ isDigit b = true := by
  obtain @⟨whole, fraction, exponent, first, -, -⟩ := number
  cases first with
  | zero => exact ⟨byte '0', _, rfl, rfl⟩
  | @digits c others digit other _ =>
    obtain ⟨low, own⟩ := isDigit_byte digit
    exact ⟨byte c, _, by rw [List.cons_append, utf8_cons low], own⟩

theorem IsNumber.some (number : IsNumber text) : text ≠ [] := by
  rintro rfl
  obtain ⟨b, more, first, -⟩ := number.head
  cases first

theorem differs_of_isDigit {b : UInt8} (digit : isDigit b = true) :
    ∀ c ∈ " \n\t\rntf-\",[]\x7b\x7d".toList, b ≠ byte c := by
  have others : ∀ c ∈ " \n\t\rntf-\",[]\x7b\x7d".toList, isDigit (byte c) = false :=
    List.all_iff_forall_prop.1 (by decide)
  rintro c member rfl
  rw [others c member] at digit
  cases digit

theorem solid_of_isDigit {b : UInt8} (digit : isDigit b = true) : isSpace b = false := by
  have differs := differs_of_isDigit digit
  simp [isSpace, differs ' ' (by decide), differs '\n' (by decide), differs '\t' (by decide),
    differs '\r' (by decide)]

/-- A value does not start with a blank or a closing bracket. -/
theorem IsJson.head {place : Option Bracket} (own : IsJson place text) :
    ∃ b more, utf8 text = b :: more ∧ isSpace b = false ∧ b ≠ byte ']' ∧ b ≠ byte '\x7d' := by
  induction own with
  | word own =>
    simp only [List.mem_cons, List.not_mem_nil, or_false] at own
    rcases own with rfl | rfl | rfl <;> exact ⟨_, _, rfl, by decide⟩
  | negative | string => exact ⟨_, _, rfl, by decide⟩
  | empty bracket | @filled bracket => cases bracket <;> exact ⟨_, _, rfl, by decide⟩
  | number number =>
    obtain ⟨b, more, first, digit⟩ := number.head
    have differs := differs_of_isDigit digit
    exact ⟨b, more, first, solid_of_isDigit digit, differs ']' (by decide),
      differs '\x7d' (by decide)⟩
  | last labels _ _ ih | more labels _ _ _ _ ih =>
    cases labels with
    | list =>
      obtain ⟨b, more, first, solid⟩ := ih
      rw [List.nil_append, utf8_append, first]
      exact ⟨b, _, rfl, solid⟩
    | object => exact ⟨_, _, rfl, by decide⟩

end Grammar

section Values

/-- The sign that comes next behind blanks. -/
theorem takes_colon (own : IsBlank blank) : Takes colon (utf8 blank ++ [byte ':']) rest () := by
  refine SkipsBlanks.takes (skipsBlanks_peekSolid.bind _) own ?_
  exact Takes.bind_looking (Takes.peekSolid (by decide)) .skip

theorem takes_skipString_all (raw : Raw text) (enough : (utf8 text).length < limit) :
    Takes (skipString limit) (utf8 text ++ [byte '"']) rest () :=
  @takes_skipString rest [] text limit raw (by simp) (Nat.lt_of_le_of_lt (length_le_utf8 text) enough)

/-- A label is taken in front of what skips the blanks at its end. -/
theorem takes_label {next : Reader α} (labels : IsLabel bracket text) (skips : SkipsBlanks next)
    (then_ : Takes next front rest value) :
    Takes (enterValue bracket >>= fun _ => next) (utf8 text ++ front) rest value := by
  cases labels with
  | list => exact then_
  | @object key gap before raw first second =>
    have whole : utf8 ('"' :: (key ++ '"' :: (gap ++ ':' :: before))) ++ front =
        (byte '"' :: ((utf8 key ++ [byte '"']) ++ (utf8 gap ++ [byte ':']))) ++
          (utf8 before ++ front) := by
      simp (disch := decide) only [utf8_append, utf8_cons, List.cons_append, List.append_assoc,
        List.nil_append]
    have key : Takes (enterValue .object)
        (byte '"' :: ((utf8 key ++ [byte '"']) ++ (utf8 gap ++ [byte ':'])))
        (utf8 before ++ front ++ rest) () := by
      refine Takes.bind_looking (Takes.peekSolid (by decide)) ?_
      refine .bind_byte .skip (.get fun taken => ?_)
      refine .bind (takes_skipString_all raw ?_) (takes_colon first)
      simp only [List.length_append]
      omega
    rw [whole]
    exact key.bind (skips.takes second then_)

/-- How a value is passed over, and what fills a bracket with the closing one. Each character takes
two steps at most, and the reader goes on behind in the brackets around. -/
def Passes : Option Bracket → List Char → Prop
  | none, text => ∃ steps < 2 * text.length, ∀ outer limit front rest, Ends (front ++ rest) →
    Takes (passOver .behind outer limit) front rest () →
    Takes (passOver .before outer (limit + steps + 1)) (utf8 text ++ front) rest ()
  | some bracket, text => ∃ steps ≤ 2 * text.length, ∀ outer limit front rest,
    Ends (front ++ rest) → Takes (passOver .behind outer limit) front rest () →
    Takes (enterValue bracket >>= fun _ => passOver .before (bracket :: outer) (limit + steps + 1))
      (utf8 text ++ byte bracket.closes :: front) rest ()

theorem takes_passOver_open
    (inside : Takes (passOver .opened (bracket :: outer) limit) front rest ()) :
    Takes (passOver .before outer (limit + 1)) (byte bracket.opens :: front) rest () := by
  cases bracket
  all_goals
    refine Takes.bind_looking (Takes.peekSolid (by decide)) ?_
    exact .bind_byte .skip inside

theorem takes_passOver_close {passing : Passing} (entered : passing ≠ .before) (own : IsBlank blank)
    (behind : Takes (passOver .behind outer limit) front rest ()) :
    Takes (passOver passing (bracket :: outer) (limit + 1))
      (utf8 blank ++ byte bracket.closes :: front) rest () := by
  cases passing
  case before => exact absurd rfl entered
  all_goals
    refine SkipsBlanks.takes (skipsBlanks_peekSolid.bind _) own ?_
    cases bracket
    all_goals
      refine Takes.bind_looking (Takes.peekSolid (by decide)) ?_
      exact .bind_byte .skip behind

/-- The first label and value right behind an opening bracket. -/
theorem takes_passOver_enter {b : UInt8} (own : IsBlank blank)
    (solid : isSpace b = false ∧ b ≠ byte ']' ∧ b ≠ byte '\x7d')
    (inside : Takes (enterValue bracket >>= fun _ => passOver .before (bracket :: outer) limit)
      (b :: front) rest ()) :
    Takes (passOver .opened (bracket :: outer) (limit + 1)) (utf8 blank ++ b :: front) rest () := by
  obtain ⟨printed, list, object⟩ := solid
  refine SkipsBlanks.takes (skipsBlanks_peekSolid.bind _) own ?_
  refine Takes.bind_looking (Takes.peekSolid printed) ?_
  cases bracket
  · simpa [list] using inside
  · simpa [object] using inside

/-- The next label and value. -/
theorem takes_passOver_comma (own : IsBlank blank)
    (others : Takes (enterValue bracket >>= fun _ => passOver .before (bracket :: outer) limit)
      front rest ()) :
    Takes (passOver .behind (bracket :: outer) (limit + 1)) (utf8 blank ++ byte ',' :: front) rest
      () := by
  refine SkipsBlanks.takes (skipsBlanks_peekSolid.bind _) own ?_
  cases bracket
  all_goals
    refine Takes.bind_looking (Takes.peekSolid (by decide)) ?_
    exact .bind_byte .skip others

theorem skipsBlanks_enterValue (bracket : Bracket) :
    SkipsBlanks (enterValue bracket >>= fun _ => passOver .before outer (limit + 1)) := by
  cases bracket with
  | list => exact skipsBlanks_passOver limit
  | object => exact (skipsBlanks_peekSolid.bind _).bind _

theorem ends_sign {b : UInt8} (sign : b = byte ',' ∨ b = byte ']' ∨ b = byte '\x7d') :
    Ends (b :: rest) := by
  intro c found
  obtain rfl := Option.some.inj found
  exact .inr sign

theorem passes_of_isJson {place : Option Bracket} (own : IsJson place text) : Passes place text := by
  induction own with
  | word own =>
    simp only [List.mem_cons, List.not_mem_nil, or_false] at own
    rcases own with rfl | rfl | rfl
    all_goals
      refine ⟨0, by decide, fun outer limit front rest ends behind => ?_⟩
      refine Takes.bind_looking (Takes.peekSolid (by decide)) ?_
      exact .bind_byte .skip (.bind (fun _ => rfl) behind)
  | @number text number =>
    obtain ⟨b, more, first, digit⟩ := number.head
    have some := List.length_pos_iff.2 number.some
    refine ⟨0, by omega, fun outer limit front rest ends behind => ?_⟩
    have differs := differs_of_isDigit digit
    have read := takes_skipNumber number ends
    rw [first] at read ⊢
    refine Takes.bind_looking (Takes.peekSolid (solid_of_isDigit digit)) ?_
    simp only [List.cons_append]
    rw [if_neg (differs 'n' (by decide)), if_neg (differs 't' (by decide)),
      if_neg (differs 'f' (by decide)), if_neg (differs '-' (by decide)), if_pos digit]
    exact .bind read behind
  | @negative text number =>
    refine ⟨0, by simp only [List.length_cons]; omega, fun outer limit front rest ends behind => ?_⟩
    rw [utf8_cons (by decide)]
    refine Takes.bind_looking (Takes.peekSolid (by decide)) ?_
    exact .bind_byte .skip (.bind (takes_skipNumber number ends) behind)
  | @string text raw =>
    refine ⟨0, by simp only [List.length_cons]; omega, fun outer limit front rest ends behind => ?_⟩
    have whole : utf8 ('"' :: (text ++ ['"'])) ++ front =
        byte '"' :: ((utf8 text ++ [byte '"']) ++ front) := by
      rw [utf8_cons (by decide), utf8_append]
      rfl
    rw [whole]
    refine Takes.bind_looking (Takes.peekSolid (by decide)) ?_
    refine .bind_byte .skip (.get fun taken => .bind (takes_skipString_all raw ?_) behind)
    simp only [List.length_append]
    omega
  | @empty bracket blank own =>
    refine ⟨1, by simp only [List.length_cons, List.length_append]; omega,
      fun outer limit front rest ends behind => ?_⟩
    rw [utf8_enclosed]
    exact takes_passOver_open (takes_passOver_close (by simp) own behind)
  | @filled bracket blank text own inside ih =>
    obtain ⟨steps, few, passes⟩ := ih
    refine ⟨steps + 2, by simp only [List.length_cons, List.length_append]; omega,
      fun outer limit front rest ends behind => ?_⟩
    have entered := passes outer limit front rest ends behind
    obtain ⟨b, more, first, solid⟩ := inside.head
    rw [← List.append_assoc, utf8_enclosed, utf8_append, List.append_assoc]
    rw [first] at entered ⊢
    exact takes_passOver_open (takes_passOver_enter own solid entered)
  | @last bracket label text after labels value own ih =>
    obtain ⟨steps, few, passes⟩ := ih
    refine ⟨steps + 1, by simp only [List.length_append]; omega,
      fun outer limit front rest ends behind => ?_⟩
    have closed : Ends (utf8 after ++ byte bracket.closes :: (front ++ rest)) :=
      .after_blank own (ends_sign (by cases bracket <;> decide))
    rw [utf8_append, utf8_append, List.append_assoc, List.append_assoc]
    refine takes_label labels (skipsBlanks_passOver _) ?_
    have read := passes (bracket :: outer) (limit + 1) (utf8 after ++ byte bracket.closes :: front) rest
      (by simpa using closed) (takes_passOver_close (by simp) own behind)
    rwa [show limit + 1 + steps + 1 = limit + (steps + 1) + 1 by omega] at read
  | @more bracket label text after before others labels value own next behind ih ih' =>
    obtain ⟨steps, few, passes⟩ := ih
    obtain ⟨further, less, goes⟩ := ih'
    refine ⟨steps + (1 + further) + 1, by simp only [List.length_append, List.length_cons]; omega,
      fun outer limit front rest ends behind => ?_⟩
    have separated (rest : List UInt8) : Ends (utf8 after ++ byte ',' :: rest) :=
      .after_blank own (ends_sign (.inl rfl))
    have whole : utf8 (label ++ (text ++ (after ++ ',' :: (before ++ others)))) ++
        byte bracket.closes :: front = utf8 label ++ (utf8 text ++ (utf8 after ++ byte ',' ::
          (utf8 before ++ (utf8 others ++ byte bracket.closes :: front)))) := by
      simp (disch := decide) only [utf8_append, utf8_cons, List.cons_append, List.append_assoc]
    rw [whole]
    refine takes_label labels (skipsBlanks_passOver _) ?_
    have read := passes (bracket :: outer) (limit + further + 1 + 1) _ rest
      (by simpa using separated _) (takes_passOver_comma own
        ((skipsBlanks_enterValue bracket).takes next (goes outer limit front rest ends behind)))
    rwa [show limit + further + 1 + 1 + steps + 1 = limit + (steps + (1 + further) + 1) + 1 by omega]
      at read

/-- A value and the blanks in front of it. -/
theorem takes_ignoreValue (own : IsBlank blank) (value : IsJson none text) (ends : Ends rest) :
    Takes ignoreValue (utf8 blank ++ utf8 text) rest () := by
  obtain ⟨steps, few, passes⟩ := passes_of_isJson value
  refine .get fun taken => ?_
  have shorter := length_le_utf8 text
  obtain ⟨spare, enough⟩ : ∃ spare, 2 * (utf8 blank ++ utf8 text ++ rest).length + 2 =
      (spare + 1) + steps + 1 := by
    refine ⟨2 * (utf8 blank ++ utf8 text ++ rest).length - steps, ?_⟩
    simp only [List.length_append]
    omega
  have read := passes [] (spare + 1) [] rest ends (.pure rest ())
  rw [List.append_nil] at read
  rw [enough]
  exact (skipsBlanks_passOver _).takes own read

end Values

end ModelForge.Json.Reader
