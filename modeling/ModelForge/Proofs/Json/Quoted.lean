import ModelForge.Json.Quoted
import ModelForge.Proofs.Json.Spelling

/-! Strings are read back. What is written between two quotes is read as the string that it was
written for, whatever follows the closing quote. -/
namespace ModelForge.Json.Reader

open Text (bytes)

section Escapes

theorem hexDigit_read : ∀ n < 16, (hexDigit n, n) ∈ hexTable := by decide

/-- A control character behind its number. -/
theorem spells_numbered {c : Char} (control : c.toNat < 0x20) :
    Spells ['\\', 'u', '0', '0', hexDigit (c.toNat / 16), hexDigit (c.toNat % 16)] c := by
  have zero : ('0', 0) ∈ hexTable := by decide
  have unit : IsUnit ['0', '0', hexDigit (c.toNat / 16), hexDigit (c.toNat % 16)]
      (((0 * 16 + 0) * 16 + c.toNat / 16) * 16 + c.toNat % 16) :=
    .mk zero zero (hexDigit_read _ (by omega)) (hexDigit_read _ (by omega))
  rw [show ((0 * 16 + 0) * 16 + c.toNat / 16) * 16 + c.toNat % 16 = c.toNat by omega] at unit
  simpa using Spells.unit unit (.inl (by omega))

theorem spells_letter {letter c : Char} (paired : (letter, c) ∈ shortEscapes) :
    Spells ['\\', letter] c := .short paired

/-- What is written for a character stands for it. -/
theorem spells_escape (c : Char) : Spells (escape c) c := by
  fun_cases escape c
  case case8 control => exact spells_numbered control
  case case9 quote backslash _ _ _ _ _ printed =>
    exact .own quote backslash (Nat.not_lt.1 printed)
  -- The rest have a letter of their own.
  all_goals
    subst_vars
    exact spells_letter (by decide)

theorem spelled_escape (cs : List Char) : Spelled (cs.flatMap escape) cs := by
  induction cs with
  | nil => exact .nil
  | cons c cs ih => exact .cons (spells_escape c) ih

/-- Characters without escapes stand for themselves. -/
theorem spelled_plain {cs : List Char} (plain : cs.flatMap escape = cs) : Spelled cs cs := by
  have spelled := spelled_escape cs
  rwa [plain] at spelled

end Escapes

section Strings

theorem bytes_quoted (s : String) :
    bytes (quoted s) = byte '"' :: (utf8 (s.toList.flatMap escape) ++ [byte '"']) := by
  rw [Text.bytes_eq_flatMap, quoted, String.toList_ofList, List.cons_append, List.flatMap_cons,
    List.flatMap_append]
  rfl

/-- A string that is written is read back. -/
theorem takes_quoted (s : String) (rest : List UInt8) :
    Takes string (utf8 (s.toList.flatMap escape) ++ [byte '"']) rest s :=
  takes_string (spelled_escape s.toList) rest

/-- A field that may be any string. -/
theorem takes_anyText (expected s : String) (rest : List UInt8) :
    Takes (anyText expected) (bytes (quoted s)) rest s := by
  rw [bytes_quoted]
  refine .placed (Takes.valueStart (by decide) |>.bind_looking ?_)
  rw [if_pos rfl]
  exact .bind_byte .skip ((takes_quoted s rest).bind_done (.pure rest s))

end Strings

end ModelForge.Json.Reader
