import ModelForge.Proofs.Json.Reader
import ModelForge.Proofs.Plugin.Header

/-! Strings are read as what they spell. A character stands for itself or behind a backslash: as a
letter, as a number of four digits, or as two numbers that make one character. -/
namespace ModelForge.Json.Reader

open Text (bytes)

variable {rest plain : List UInt8} {c : Char} {text front : List Char} {limit : Nat}

/-- The bytes of some characters. -/
abbrev utf8 (text : List Char) : List UInt8 := text.flatMap String.utf8EncodeChar

theorem utf8_append (front text : List Char) : utf8 (front ++ text) = utf8 front ++ utf8 text :=
  List.flatMap_append

/-- Below the high half of the bytes a character is written as its number. -/
theorem utf8_cons (low : c.toNat < 128) (text : List Char) : utf8 (c :: text) = byte c :: utf8 text := by
  have alone : String.utf8EncodeChar c = [byte c] := if_pos (Nat.le_of_lt_succ low)
  rw [utf8, List.flatMap_cons, alone]
  rfl

theorem utf8_of_low {cs : List Char} (low : ∀ c ∈ cs, c.toNat < 128) : utf8 cs = cs.map byte := by
  induction cs with
  | nil => rfl
  | cons c cs ih =>
    obtain ⟨first, others⟩ := List.forall_mem_cons.1 low
    rw [utf8_cons first, ih others, List.map_cons]

theorem bytesOf_eq (c : Char) : bytesOf c = String.utf8EncodeChar c := by
  rw [bytesOf, ← bytes, Text.bytes_eq_flatMap]
  simp

/-- A character that stands for itself has no byte that ends or escapes anything. -/
theorem isPlain_of_mem (quote : c ≠ '"') (backslash : c ≠ '\\') (printed : 0x20 ≤ c.toNat) :
    ∀ b ∈ String.utf8EncodeChar c, isPlain b = true := by
  intro b member
  have differs {sign : Char} (other : c ≠ sign) (low : (byte sign).toNat = sign.toNat)
      (below : sign.toNat < 128) : b ≠ byte sign := by
    rintro rfl
    rcases Text.low_of_mem_utf8EncodeChar member with same | high
    · exact other (Char.toNat_inj.1 (same.trans low))
    · omega
  have above : 0x20 ≤ b := by
    rcases Text.low_of_mem_utf8EncodeChar member with low | high
    · exact UInt8.le_iff_toNat_le.2 (by simpa [← low] using printed)
    · exact UInt8.le_iff_toNat_le.2 (by simp; omega)
  simp [isPlain, differs quote rfl (by decide), differs backslash rfl (by decide), above]

section Numbers

/-- The digits of numbers with their values. -/
def hexTable : List (Char × Nat) :=
  "0123456789abcdef".toList.zipIdx ++ "ABCDEF".toList.zipIdx 10

/-- Four digits and the number that they make. -/
inductive IsUnit : List Char → Nat → Prop where
  | mk {a b c d : Char × Nat} (first : a ∈ hexTable) (second : b ∈ hexTable) (third : c ∈ hexTable)
      (fourth : d ∈ hexTable) :
      IsUnit [a.1, b.1, c.1, d.1] (((a.2 * 16 + b.2) * 16 + c.2) * 16 + d.2)

theorem hexTable_read : ∀ pair ∈ hexTable,
    pair.1.toNat < 128 ∧ hexValue? (byte pair.1) = some pair.2 := by decide

theorem takes_hexUnit {n : Nat} (unit : IsUnit text n) : Takes hexUnit (utf8 text) rest n := by
  obtain @⟨a, b, c, d, first, second, third, fourth⟩ := unit
  have low : ∀ e ∈ [a.1, b.1, c.1, d.1], e.toNat < 128 := by
    simp [hexTable_read a first, hexTable_read b second, hexTable_read c third,
      hexTable_read d fourth]
  rw [utf8_of_low low]
  intro taken
  have looked (cursor : Cursor) : (get : Reader Cursor).run.run cursor = (.ok cursor, cursor) := rfl
  simp only [hexUnit, Action.run_bind, looked, List.map_cons, List.map_nil, List.cons_append,
    List.nil_append, (hexTable_read a first).2, (hexTable_read b second).2, (hexTable_read c third).2,
    (hexTable_read d fourth).2]
  rfl

end Numbers

section Characters

/-- The letters that stand for a character behind a backslash. -/
def shortEscapes : List (Char × Char) :=
  [('"', '"'), ('\\', '\\'), ('/', '/'), ('b', '\x08'), ('f', '\x0c'), ('n', '\n'), ('r', '\r'),
    ('t', '\t')]

/-- What stands for a character between two quotes. -/
inductive Spells : List Char → Char → Prop where
  | own {c : Char} (quote : c ≠ '"') (backslash : c ≠ '\\') (printed : 0x20 ≤ c.toNat) : Spells [c] c
  | short {pair : Char × Char} (paired : pair ∈ shortEscapes) : Spells ['\\', pair.1] pair.2
  | unit {digits : List Char} {n : Nat} (unit : IsUnit digits n) (whole : n < 0xd800 ∨ 0xdfff < n) :
      Spells ('\\' :: 'u' :: digits) (Char.ofNat n)
  /-- Two halves of a character. -/
  | pair {high low : List Char} {m n : Nat} (first : IsUnit high m) (second : IsUnit low n)
      (leading : 0xd800 ≤ m ∧ m ≤ 0xdbff) (trailing : 0xdc00 ≤ n ∧ n ≤ 0xdfff) :
      Spells ('\\' :: 'u' :: (high ++ '\\' :: 'u' :: low))
        (Char.ofNat ((m - 0xd800) * 0x400 + (n - 0xdc00) + 0x10000))

theorem takes_escaped_unit (character : Takes escapedCharacter (utf8 text) rest c) :
    Takes escaped (byte 'u' :: utf8 text) rest (String.utf8EncodeChar c) := by
  rw [← bytesOf_eq]
  exact .bind_byte (fun _ => rfl) character.map

/-- A character stands for itself, or behind a backslash for what the escape is read as. -/
theorem Spells.cases (spells : Spells text c) :
    (text = [c] ∧ ∀ b ∈ String.utf8EncodeChar c, isPlain b = true) ∨
      ∃ front, text = '\\' :: front ∧
        ∀ rest, Takes escaped (utf8 front) rest (String.utf8EncodeChar c) := by
  cases spells with
  | own quote backslash printed => exact .inl ⟨rfl, isPlain_of_mem quote backslash printed⟩
  | short paired =>
    refine .inr ⟨_, rfl, fun rest taken => ?_⟩
    simp only [shortEscapes, List.mem_cons, List.not_mem_nil, or_false] at paired
    rcases paired with rfl | rfl | rfl | rfl | rfl | rfl | rfl | rfl <;> rfl
  | @unit digits n unit whole =>
    refine .inr ⟨_, rfl, fun rest => takes_escaped_unit ?_⟩
    refine (takes_hexUnit unit).bind_done ?_
    rw [if_neg (by omega), if_pos (by omega)]
    exact .pure rest _
  | @pair high low m n first second leading trailing =>
    refine .inr ⟨_, rfl, fun rest => takes_escaped_unit ?_⟩
    have halves : utf8 (high ++ '\\' :: 'u' :: low) =
        utf8 high ++ (byte '\\' :: byte 'u' :: utf8 low) := by
      rw [utf8_append, utf8_cons (by decide), utf8_cons (by decide)]
    rw [halves]
    refine (takes_hexUnit first).bind ?_
    rw [if_neg (by omega), if_neg (by omega)]
    refine .bind_byte (fun _ => rfl) (.bind_byte (fun _ => rfl) ?_)
    refine (takes_hexUnit second).bind_done ?_
    rw [if_neg (by omega)]
    exact .pure rest _

end Characters

section Strings

/-- What stands for some characters between two quotes. -/
inductive Spelled : List Char → List Char → Prop where
  | nil : Spelled [] []
  | cons {front text cs : List Char} {c : Char} (first : Spells front c) (others : Spelled text cs) :
      Spelled (front ++ text) (c :: cs)

/-- A string up to its closing quote. `plain` is what has come since the last escape. -/
theorem takes_stringBytes {cs : List Char} (spelled : Spelled text cs)
    (inside : ∀ b ∈ plain, isPlain b = true) (enough : text.length < limit) :
    Takes (stringBytes limit) (plain ++ (utf8 text ++ [byte '"'])) rest
      (plain ++ cs.flatMap String.utf8EncodeChar) := by
  induction spelled generalizing limit plain with
  | nil =>
    obtain ⟨limit, rfl⟩ := Nat.exists_eq_add_one_of_ne_zero (Nat.ne_zero_of_lt enough)
    simp only [stringBytes, utf8, List.flatMap_nil, List.nil_append, List.append_nil]
    refine .bind (.takeWhile inside (by simp; decide)) (Takes.peek.bind_looking ?_)
    exact Takes.skip.bind_done (.pure rest plain)
  | @cons front text cs c first others ih =>
    rw [List.length_append] at enough
    rcases first.cases with ⟨rfl, plainly⟩ | ⟨front, rfl, reads⟩
    · have longer : ∀ b ∈ plain ++ String.utf8EncodeChar c, isPlain b = true := by
        simpa [or_imp, forall_and] using ⟨inside, plainly⟩
      have fewer : text.length < limit := by omega
      simpa [utf8] using ih longer fewer
    · obtain ⟨limit, rfl⟩ := Nat.exists_eq_add_one_of_ne_zero (Nat.ne_zero_of_lt enough)
      have fewer : text.length < limit := by
        simp only [List.length_cons] at enough
        omega
      have behind : Takes (stringBytes limit) (utf8 text ++ [byte '"']) rest
          (cs.flatMap String.utf8EncodeChar) := @ih [] limit (by simp) fewer
      have whole : utf8 ('\\' :: front ++ text) = byte '\\' :: (utf8 front ++ utf8 text) := by
        rw [List.cons_append, utf8_cons (by decide), utf8_append]
      rw [whole, List.flatMap_cons]
      simp only [stringBytes, List.cons_append, List.append_assoc]
      refine .bind (.takeWhile inside (by simp; decide)) (Takes.peek.bind_looking ?_)
      refine .bind_byte .skip ?_
      rw [if_neg (by decide), if_pos rfl]
      exact .bind (reads _) (behind.bind_done (by simpa using .pure rest _))

theorem length_le_utf8 (text : List Char) : text.length ≤ (utf8 text).length := by
  induction text with
  | nil => simp
  | cons c text ih =>
    have one := c.utf8Size_pos
    rw [utf8, List.flatMap_cons, ← utf8]
    simp only [List.length_append, List.length_cons, String.length_utf8EncodeChar]
    omega

/-- A string after its opening quote. -/
theorem takes_string {s : String} (spelled : Spelled text s.toList) (rest : List UInt8) :
    Takes string (utf8 text ++ [byte '"']) rest s := by
  refine .get fun taken => ?_
  have enough : text.length < (utf8 text ++ [byte '"'] ++ rest).length + 1 := by
    have shorter := length_le_utf8 text
    simp only [List.length_append]
    omega
  have read : Takes (stringBytes ((utf8 text ++ [byte '"'] ++ rest).length + 1))
      ([] ++ (utf8 text ++ [byte '"'])) rest ([] ++ s.toList.flatMap String.utf8EncodeChar) :=
    takes_stringBytes spelled (by simp) enough
  refine read.bind_done ?_
  rw [List.nil_append, ← Text.bytes_eq_flatMap, Text.fromUTF8?_eq_some_iff.2 rfl]
  exact .pure rest s

end Strings

section Passing

/-- A string that is passed over. Its numbers need not make characters. -/
inductive Raw : List Char → Prop where
  | nil : Raw []
  | own {c : Char} {text : List Char} (quote : c ≠ '"') (backslash : c ≠ '\\')
      (printed : 0x20 ≤ c.toNat) (others : Raw text) : Raw (c :: text)
  | short {pair : Char × Char} {text : List Char} (paired : pair ∈ shortEscapes) (others : Raw text) :
      Raw ('\\' :: pair.1 :: text)
  | unit {digits text : List Char} {n : Nat} (unit : IsUnit digits n) (others : Raw text) :
      Raw ('\\' :: 'u' :: (digits ++ text))

/-- What spells some characters can be passed over. -/
theorem Spelled.raw {cs : List Char} (spelled : Spelled text cs) : Raw text := by
  induction spelled with
  | nil => exact .nil
  | cons first _ ih =>
    cases first with
    | own quote backslash printed => exact .own quote backslash printed ih
    | short paired => exact .short paired ih
    | unit unit _ => exact .unit unit ih
    | pair first second _ _ =>
      simp only [List.cons_append, List.append_assoc]
      exact .unit first (.unit second ih)

theorem shortEscapes_read : ∀ pair ∈ shortEscapes,
    pair.1.toNat < 128 ∧ byte pair.1 ≠ byte 'u' ∧
      (!("\"\\/bfnrt".toList.map byte).contains (byte pair.1)) = false := by decide

/-- `plain` is what has come since the last escape. -/
theorem takes_skipString (raw : Raw text) (inside : ∀ b ∈ plain, isPlain b = true)
    (enough : text.length < limit) :
    Takes (skipString limit) (plain ++ (utf8 text ++ [byte '"'])) rest () := by
  induction raw generalizing limit plain with
  | nil =>
    obtain ⟨limit, rfl⟩ := Nat.exists_eq_add_one_of_ne_zero (Nat.ne_zero_of_lt enough)
    refine .bind (.takeWhile inside (by simp; decide)) (Takes.peek.bind_looking ?_)
    exact .skip
  | @own c text quote backslash printed others ih =>
    have longer : ∀ b ∈ plain ++ String.utf8EncodeChar c, isPlain b = true := by
      simpa [or_imp, forall_and] using ⟨inside, isPlain_of_mem quote backslash printed⟩
    simpa [utf8] using ih longer (Nat.lt_of_succ_lt enough)
  | @short pair text paired others ih =>
    obtain ⟨limit, rfl⟩ := Nat.exists_eq_add_one_of_ne_zero (Nat.ne_zero_of_lt enough)
    obtain ⟨low, other, known⟩ := shortEscapes_read pair paired
    have behind : Takes (skipString limit) (utf8 text ++ [byte '"']) rest () :=
      @ih [] limit (by simp) (by simp only [List.length_cons] at enough; omega)
    have whole : utf8 ('\\' :: pair.1 :: text) = byte '\\' :: byte pair.1 :: utf8 text := by
      rw [utf8_cons (by decide), utf8_cons low]
    rw [whole]
    refine .bind (.takeWhile inside (by simp; decide)) (Takes.peek.bind_looking ?_)
    simp only [List.cons_append, List.head?_cons]
    rw [if_neg (by decide), if_pos trivial]
    refine .bind_byte .skip (.bind_byte (fun _ => rfl) ?_)
    rw [if_neg other, if_neg (by simpa using known)]
    exact behind
  | @unit digits text n unit others ih =>
    obtain ⟨limit, rfl⟩ := Nat.exists_eq_add_one_of_ne_zero (Nat.ne_zero_of_lt enough)
    have behind : Takes (skipString limit) (utf8 text ++ [byte '"']) rest () :=
      @ih [] limit (by simp) (by simp only [List.length_cons, List.length_append] at enough; omega)
    have whole : utf8 ('\\' :: 'u' :: (digits ++ text)) =
        byte '\\' :: byte 'u' :: (utf8 digits ++ utf8 text) := by
      rw [utf8_cons (by decide), utf8_cons (by decide), utf8_append]
    rw [whole]
    refine .bind (.takeWhile inside (by simp; decide)) (Takes.peek.bind_looking ?_)
    simp only [List.cons_append, List.head?_cons, List.append_assoc]
    rw [if_neg (by decide), if_pos trivial]
    refine .bind_byte .skip (.bind_byte (fun _ => rfl) ?_)
    rw [if_pos rfl]
    exact (takes_hexUnit unit).bind behind

end Passing

end ModelForge.Json.Reader
