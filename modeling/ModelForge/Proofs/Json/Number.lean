import Mathlib.Data.Bool.AllAny
import ModelForge.Proofs.Json.Spelling

/-! Numbers are passed over. A number without its sign is a zero or digits that do not start with
one, a fraction or none, and an exponent or none; it is over where something else comes. -/
namespace ModelForge.Json.Reader

variable {rest : List UInt8} {b : UInt8} {c : Char} {text : List Char}

/-- What may stand behind a value. -/
def Ends (rest : List UInt8) : Prop :=
  ∀ b ∈ rest.head?, isSpace b = true ∨ b = byte ',' ∨ b = byte ']' ∨ b = byte '\x7d'

/-- The bytes that may stand there. -/
def closers : List UInt8 :=
  [byte ' ', byte '\n', byte '\t', byte '\r', byte ',', byte ']', byte '\x7d']

theorem Ends.head {P : UInt8 → Prop} [DecidablePred P] (ends : Ends rest)
    (signs : closers.all (P ·)) : ∀ b ∈ rest.head?, P b := by
  intro b found
  refine List.all_iff_forall_prop.1 signs b ?_
  have either := ends b found
  simp only [isSpace, Bool.or_eq_true, beq_iff_eq] at either
  simpa [closers, or_assoc] using either

section Digits

/-- At least one digit. -/
structure IsDigits (text : List Char) : Prop where
  some : text ≠ []
  digits : ∀ c ∈ text, c.isDigit = true

theorem isDigit_byte (digit : c.isDigit = true) : c.toNat < 128 ∧ isDigit (byte c) = true := by
  simp only [Char.isDigit, UInt32.le_iff_toNat_le, Bool.and_eq_true, decide_eq_true_eq, ge_iff_le] at digit
  have range : 48 ≤ c.toNat ∧ c.toNat ≤ 57 := digit
  refine ⟨by omega, ?_⟩
  simp only [isDigit, byte, Bool.and_eq_true, decide_eq_true_eq, UInt8.le_iff_toNat_le]
  simp
  omega

theorem takes_digits (digits : ∀ c ∈ text, c.isDigit = true)
    (outside : ∀ b ∈ rest.head?, isDigit b = false) :
    Takes (takeWhile isDigit) (utf8 text) rest (utf8 text) := by
  refine .takeWhile (fun b member => ?_) outside
  rw [utf8_of_low fun c member => (isDigit_byte (digits c member)).1] at member
  obtain ⟨c, inside, rfl⟩ := List.mem_map.1 member
  exact (isDigit_byte (digits c inside)).2

end Digits

section Parts

/-- The exponent of a number, or nothing. -/
inductive IsExponent : List Char → Prop where
  | none : IsExponent []
  | some {mark : Char} {sign digits : List Char} (marks : mark = 'e' ∨ mark = 'E')
      (signs : sign = [] ∨ sign = ['+'] ∨ sign = ['-']) (own : IsDigits digits) :
      IsExponent (mark :: (sign ++ digits))

/-- The fraction of a number, or nothing. -/
inductive IsFraction : List Char → Prop where
  | none : IsFraction []
  | some {digits : List Char} (own : IsDigits digits) : IsFraction ('.' :: digits)

/-- What stands in front of the fraction. -/
inductive IsWhole : List Char → Prop where
  | zero : IsWhole ['0']
  | digits {c : Char} {text : List Char} (first : c.isDigit = true) (other : c ≠ '0')
      (digits : ∀ c ∈ text, c.isDigit = true) : IsWhole (c :: text)

/-- A number without its sign. -/
inductive IsNumber : List Char → Prop where
  | mk {whole fraction exponent : List Char} (first : IsWhole whole) (second : IsFraction fraction)
      (third : IsExponent exponent) : IsNumber (whole ++ (fraction ++ exponent))

/-- The digits of an exponent are read in the same way with a sign before them and without one. -/
theorem takes_exponentDigits (own : IsDigits text) (ends : Ends rest) : Takes (do
    match ← next with
    | some b => if isDigit b then let _ ← takeWhile isDigit else failTaken .invalidNumber
    | none => failTaken .invalidNumber) (utf8 text) rest () := by
  obtain ⟨c, more, rfl⟩ := List.exists_cons_of_ne_nil own.some
  obtain ⟨digit, others⟩ := List.forall_mem_cons.1 own.digits
  obtain ⟨low, first⟩ := isDigit_byte digit
  rw [utf8_cons low]
  refine .bind_byte (fun _ => rfl) ?_
  simp only [first, if_true]
  exact (takes_digits others (ends.head (by decide))).bind_done (.pure rest ())

theorem takes_skipExponent {mark : Char} {sign digits : List Char} (marks : mark = 'e' ∨ mark = 'E')
    (signs : sign = [] ∨ sign = ['+'] ∨ sign = ['-']) (own : IsDigits digits) (ends : Ends rest) :
    Takes skipExponent (utf8 (mark :: (sign ++ digits))) rest () := by
  have read := takes_exponentDigits own ends
  obtain ⟨c, more, rfl⟩ := List.exists_cons_of_ne_nil own.some
  obtain ⟨low, first⟩ := isDigit_byte (own.digits c List.mem_cons_self)
  have whole : utf8 (mark :: (sign ++ c :: more)) =
      byte mark :: (sign.map byte ++ utf8 (c :: more)) := by
    rcases marks with rfl | rfl <;> rcases signs with rfl | rfl | rfl <;> rfl
  rw [whole]
  refine .bind_byte .skip (Takes.peek.bind_looking ?_)
  rcases signs with rfl | rfl | rfl
  · have unsigned : ¬(byte c = byte '+' ∨ byte c = byte '-') := by
      rintro (same | same) <;> rw [same] at first <;> exact absurd first (by decide)
    have head : (utf8 (c :: more) ++ rest).head? = some (byte c) := by
      rw [utf8_cons low]
      rfl
    simp only [List.map_nil, List.nil_append, head, unsigned, if_false]
    exact read
  · exact .bind_byte .skip read
  · exact .bind_byte .skip read

theorem takes_exponent {exponent : List Char} (third : IsExponent exponent) (ends : Ends rest) :
    Takes (if startsExponent (utf8 exponent ++ rest).head? then skipExponent else pure ())
      (utf8 exponent) rest () := by
  cases third with
  | none =>
    have ended : startsExponent rest.head? = false := by
      cases head : rest.head? with
      | none => rfl
      | some b => exact ends.head (P := fun b => startsExponent (some b) = false) (by decide) b head
    have empty : utf8 [] = [] := rfl
    rw [empty, List.nil_append, ended]
    exact .pure rest ()
  | some marks signs own =>
    rw [if_pos (by rcases marks with rfl | rfl <;> rfl)]
    exact takes_skipExponent marks signs own ends

/-- No exponent starts with a digit or a point. -/
theorem head_exponent {P : UInt8 → Prop} [DecidablePred P] {exponent : List Char}
    (third : IsExponent exponent) (ends : Ends rest) (signs : closers.all (P ·))
    (small : P (byte 'e')) (large : P (byte 'E')) :
    ∀ b ∈ (utf8 exponent ++ rest).head?, P b := by
  cases third with
  | none => exact ends.head signs
  | some marks _ _ =>
    intro b found
    rcases marks with rfl | rfl
    · exact Option.some.inj found ▸ small
    · exact Option.some.inj found ▸ large

/-- What comes behind the whole part of a number. -/
theorem takes_numberEnd {fraction exponent : List Char} (second : IsFraction fraction)
    (third : IsExponent exponent) (ends : Ends rest) :
    Takes (do
      let following ← peek
      if following = some (byte '.') then
        skip
        let digits ← takeWhile isDigit
        if digits.isEmpty then failNext .invalidNumber
        else if startsExponent (← peek) then skipExponent
      else if startsExponent following then skipExponent)
      (utf8 (fraction ++ exponent)) rest () := by
  cases second with
  | none =>
    have head := head_exponent (P := (· ≠ byte '.')) third ends (by decide) (by decide) (by decide)
    have other : (utf8 exponent ++ rest).head? ≠ some (byte '.') := fun bad => head _ bad rfl
    refine Takes.peek.bind_looking ?_
    rw [List.nil_append, if_neg other]
    exact takes_exponent third ends
  | @some digits own =>
    have outside := head_exponent (P := (isDigit · = false)) third ends (by decide) (by decide)
      (by decide)
    have filled : (utf8 digits).isEmpty = false := by
      have longer := length_le_utf8 digits
      have some := List.length_pos_iff.2 own.some
      rw [List.isEmpty_eq_false_iff, ← List.length_pos_iff]
      omega
    have whole : utf8 ('.' :: digits ++ exponent) = byte '.' :: (utf8 digits ++ utf8 exponent) := by
      rw [List.cons_append, utf8_cons (by decide), utf8_append]
    rw [whole]
    refine Takes.peek.bind_looking ?_
    simp only [List.cons_append, List.head?_cons]
    rw [if_pos trivial]
    refine .bind_byte .skip (.bind (takes_digits own.digits outside) ?_)
    rw [if_neg (by simp [filled])]
    exact Takes.peek.bind_looking (takes_exponent third ends)

theorem takes_skipNumber (number : IsNumber text) (ends : Ends rest) :
    Takes skipNumber (utf8 text) rest () := by
  obtain @⟨whole, fraction, exponent, first, second, third⟩ := number
  have behind := takes_numberEnd second third ends
  have outside : ∀ b ∈ (utf8 (fraction ++ exponent) ++ rest).head?, isDigit b = false := by
    cases second with
    | none => exact head_exponent third ends (by decide) (by decide) (by decide)
    | some =>
      intro b found
      obtain rfl := Option.some.inj found
      rfl
  rw [utf8_append]
  cases first with
  | zero =>
    have alone : utf8 ['0'] = [byte '0'] := rfl
    rw [alone, List.singleton_append]
    refine .bind_byte (fun _ => rfl) ?_
    simp only [show isDigit (byte '0') = true from rfl, Bool.not_true, Bool.false_eq_true, if_false,
      if_true]
    refine Takes.peek.bind_looking ?_
    cases head : (utf8 (fraction ++ exponent) ++ rest).head? with
    | none => exact behind
    | some b =>
      simp only [outside b head, Bool.false_eq_true, if_false]
      exact behind
  | @digits c more digit other others =>
    obtain ⟨low, own⟩ := isDigit_byte digit
    have differs : byte c ≠ byte '0' := fun same => other (Char.toNat_inj.1 (by
      have number := congrArg UInt8.toNat same
      simp only [byte, Nat.toUInt8_eq, UInt8.toNat_ofNat'] at number
      have zero : '0'.toNat = 48 := rfl
      omega))
    rw [utf8_cons low]
    refine .bind_byte (fun _ => rfl) ?_
    simp only [own, Bool.not_true, Bool.false_eq_true, if_false, differs]
    exact (takes_digits others outside).bind behind

end Parts

end ModelForge.Json.Reader
