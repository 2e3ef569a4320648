import ModelForge.Proofs.Yaml.Line

/-! A mapping that is written is read back whole. None of the characters that are written is
forbidden in a document. -/
namespace ModelForge.Yaml.Scan

variable {c : Char}

section Allowed

theorem isAllowed_of_hex {n : Nat} (digit : hexValue? c = some n) : isAllowed c = true := by
  have range : (48 ≤ c.toNat ∧ c.toNat ≤ 57) ∨ (97 ≤ c.toNat ∧ c.toNat ≤ 102) ∨
      (65 ≤ c.toNat ∧ c.toNat ≤ 70) := by
    simp only [hexValue?, Char.isDigit, Char.le_def, UInt32.le_iff_toNat_le, Bool.and_eq_true,
      decide_eq_true_eq, ge_iff_le] at digit
    split_ifs at digit with decimal small large
    · exact .inl decimal
    · exact .inr (.inl small)
    · exact .inr (.inr large)
  simp only [isAllowed, Bool.or_eq_true, Bool.and_eq_true, beq_iff_eq, decide_eq_true_eq]
  omega

theorem HexDigits.allowed {digits : List Char} {values : List Nat} (read : HexDigits digits values) :
    ∀ d ∈ digits, isAllowed d = true := by
  induction read with
  | nil => simp
  | cons digit _ ih => exact List.forall_mem_cons.2 ⟨isAllowed_of_hex digit, ih⟩

theorem isAllowed_code (width : Nat) (c : Char) : ∀ d ∈ Written.code width c, isAllowed d = true := by
  intro d member
  rcases List.mem_append.1 member with zero | digit
  · rw [List.eq_of_mem_replicate zero]
    rfl
  · obtain ⟨values, read, -⟩ := hexDigits_toDigits c.toNat
    exact read.allowed d digit

theorem isAllowed_escaped (c : Char) : ∀ d ∈ Written.escaped c, isAllowed d = true := by
  unfold Written.escaped
  dsimp only
  split
  case isTrue kept =>
    simp only [Bool.and_eq_true] at kept
    simpa using isAllowed_of_isPrintable kept.1.1.1
  case isFalse =>
    refine List.forall_mem_cons.2 ⟨rfl, ?_⟩
    split
    case h_15 =>
      split_ifs <;> exact List.forall_mem_cons.2 ⟨rfl, isAllowed_code _ c⟩
    all_goals exact List.all_eq_true.1 (by decide)

theorem mem_indented {written : Char → List Char} {broken : Bool} {s : List Char}
    (member : c ∈ Written.indented written broken s) :
    c = ' ' ∨ Written.isBreak c = true ∨ ∃ d ∈ s, c ∈ written d := by
  induction s generalizing broken with
  | nil => cases member
  | cons d s ih =>
    have behind {broken : Bool} (member : c ∈ Written.indented written broken s) :
        c = ' ' ∨ Written.isBreak c = true ∨ ∃ e ∈ d :: s, c ∈ written e :=
      (ih member).imp_right (.imp_right fun ⟨e, own, found⟩ => ⟨e, List.mem_cons_of_mem d own, found⟩)
    rw [Written.indented] at member
    split at member
    case isTrue ends =>
      rcases List.mem_cons.1 member with rfl | member
      · exact .inr (.inl ends)
      · exact behind member
    case isFalse =>
      rcases List.mem_append.1 member with first | member
      · rcases List.mem_append.1 first with blank | own
        · have indentation : c ∈ Written.indentation := by split at blank <;> simp_all
          exact .inl (by simpa [Written.indentation] using indentation)
        · exact .inr (.inr ⟨d, List.mem_cons_self, own⟩)
      · exact behind member

theorem isAllowed_of_isBreak (ends : Written.isBreak c = true) : isAllowed c = true := by
  rcases isBreak_iff.1 ends with rfl | rfl | rfl <;> rfl

theorem isAllowed_indented {written : Char → List Char} {broken : Bool} {s : List Char}
    (own : ∀ d ∈ s, ∀ c ∈ written d, isAllowed c = true) :
    ∀ c ∈ Written.indented written broken s, isAllowed c = true := by
  intro c member
  rcases mem_indented member with rfl | ends | ⟨d, inside, found⟩
  · rfl
  · exact isAllowed_of_isBreak ends
  · exact own d inside c found

theorem isAllowed_scalar (value : String) : ∀ c ∈ Written.scalar value, isAllowed c = true := by
  rw [Written.scalar]
  rcases style_cases value with ⟨own, can, -⟩ | ⟨own, can, -⟩ | own | ⟨own, -, printable⟩ <;>
    simp only [own]
  · simp only [Written.canBePlain, Written.isOrdinary, Bool.and_eq_true, List.all_eq_true] at can
    obtain ⟨⟨⟨⟨⟨printable, -⟩, -⟩, -⟩, -⟩, -⟩ := can
    exact fun c member => isAllowed_of_isPrintable (printable c member)
  · simp only [Written.canBeSingleQuoted, Written.isOrdinary, Bool.and_eq_true, List.all_eq_true] at can
    obtain ⟨⟨printable, -⟩, -⟩ := can
    have inside : ∀ c ∈ Written.indented (fun c => if c = '\'' then ['\'', '\''] else [c]) false
        value.toList, isAllowed c = true := isAllowed_indented fun d member => by
      have allowed := isAllowed_of_isPrintable (printable d member)
      split <;> simp_all
    simp only [Written.singleQuoted, List.cons_append, List.forall_mem_cons, List.forall_mem_append]
    refine ⟨rfl, ⟨inside, ?_⟩, rfl, by simp⟩
    split <;> exact List.all_eq_true.1 (by decide)
  · have inside : ∀ c ∈ value.toList.flatMap Written.escaped, isAllowed c = true := fun c member => by
      obtain ⟨d, -, found⟩ := List.mem_flatMap.1 member
      exact isAllowed_escaped d c found
    simp only [Written.doubleQuoted, List.cons_append, List.forall_mem_cons, List.forall_mem_append]
    exact ⟨rfl, inside, rfl, by simp⟩
  · have inside : ∀ c ∈ Written.indented (fun c => [c]) true value.toList, isAllowed c = true :=
      isAllowed_indented fun d member => by simpa using isAllowed_of_isPrintable (printable d member)
    have signs : ∀ c ∈ Written.chomping value.toList, isAllowed c = true := by
      unfold Written.chomping
      repeat' split
      all_goals exact List.all_eq_true.1 (by decide)
    simp only [Written.literal, List.cons_append, List.forall_mem_cons, List.forall_mem_append]
    refine ⟨rfl, ⟨?_, signs⟩, rfl, inside⟩
    split <;> exact List.all_eq_true.1 (by decide)

theorem isAllowed_entry {key : String} (own : IsKey key.toList) (value : String) :
    ∀ c ∈ Written.entry key value, isAllowed c = true := by
  have letters : ∀ c ∈ key.toList, isAllowed c = true := by
    intro c member
    rcases own.letters c member with lower | rfl
    · obtain ⟨above, below⟩ := Bool.and_eq_true_iff.1 lower
      have low : 97 ≤ c.toNat := UInt32.le_iff_toNat_le.1 (of_decide_eq_true above)
      have high : c.toNat ≤ 122 := UInt32.le_iff_toNat_le.1 (of_decide_eq_true below)
      simp only [isAllowed, Bool.or_eq_true, Bool.and_eq_true, beq_iff_eq, decide_eq_true_eq]
      omega
    · rfl
  have ends : ∀ c ∈ lastEnd (Written.scalar value), isAllowed c = true := by
    unfold lastEnd
    split <;> exact List.all_eq_true.1 (by decide)
  simp only [entry_eq, line, List.forall_mem_append, List.forall_mem_cons]
  exact ⟨letters, rfl, rfl, isAllowed_scalar value, ends⟩

end Allowed

/-- The lines of a mapping are read back as its keys and values. -/
theorem scan_entries {entry : String × String} {entries : List (String × String)}
    (own : ∀ e ∈ entry :: entries, IsKey e.1.toList) :
    ∃ tokens, Token.scan (mappingText (entry :: entries)) =
        (tokens, none) ∧
      tokens.map Token.kind = .blockMappingStart ::
        (mappingKinds (entry :: entries) ++
          [TokenKind.blockEnd, .streamEnd]) := by
  have allowed : ∀ c ∈ mappingText (entry :: entries), isAllowed c = true := by
    intro c member
    obtain ⟨e, inside, found⟩ := List.mem_flatMap.1 member
    exact isAllowed_entry (own e inside) e.2 c found
  have long := length_entries own
  obtain ⟨first, others⟩ := List.forall_mem_cons.1 own
  rw [List.length_cons] at long
  obtain ⟨limit, enough⟩ := Nat.exists_eq_add_of_le'
    (show 3 ≤ (mappingText (entry :: entries)).length + 2 by omega)
  have between : Between ⟨mappingText (entry :: entries), ⟨0, 0, 0⟩, 0, -1, [], true, [none], [], 0⟩
      false (Written.entry entry.1 entry.2 ++ mappingText entries) [] :=
    ⟨⟨rfl, rfl, rfl, rfl⟩, .inl ⟨⟨rfl, rfl, rfl, (by decide : (-1 : Int) ≤ 0)⟩, rfl⟩⟩
  obtain ⟨t, runs, behind⟩ := run_steps_entry first between (head_entries others)
  have fewer : 3 * entries.length < limit := by omega
  obtain ⟨u, ends, tokens⟩ := run_steps_entries others behind fewer
  refine ⟨u.tokens.reverse, ?_, ?_⟩
  · rw [Token.scan, if_pos (List.all_eq_true.2 allowed), enough]
    dsimp only
    rw [runs limit, ends]
  · simp [List.map_reverse, tokens, opening]

end ModelForge.Yaml.Scan
