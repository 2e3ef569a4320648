import Mathlib.Data.List.TakeWhile
import ModelForge.Proofs.Yaml.Scan
import ModelForge.Yaml.Written

/-! Blanks and line ends between the words of a scalar. Of the characters that are written as they
are, only the space is a blank, and the line ends are those that the writer takes for such; a scan
comes to the stretches between words one by one. -/
namespace ModelForge.Yaml

section Characters

variable {c : Char}

theorem isBreak_of_isPrintable (printable : Written.isPrintable c = true) :
    Scan.isBreak c = Written.isBreak c := by
  have feed : (c == '\r') = false := by
    rw [beq_eq_false_iff_ne]
    rintro rfl
    exact absurd printable (by decide)
  have line : (c == '\u0085') = false := by
    rw [beq_eq_false_iff_ne]
    rintro rfl
    exact absurd printable (by decide)
  simp [Scan.isBreak, Written.isBreak, feed, line]

theorem isBlank_of_isPrintable (printable : Written.isPrintable c = true) :
    Scan.isBlank c = (c == ' ') := by
  have tab : (c == '\t') = false := by
    rw [beq_eq_false_iff_ne]
    rintro rfl
    exact absurd printable (by decide)
  simp [Scan.isBlank, tab]

theorem isAllowed_of_isPrintable (printable : Written.isPrintable c = true) :
    Scan.isAllowed c = true := by
  simp only [Written.isPrintable, Scan.isAllowed, Bool.or_eq_true, Bool.and_eq_true, beq_iff_eq,
    bne_iff_ne, decide_eq_true_eq] at printable ⊢
  omega

theorem isBreak_iff : Written.isBreak c = true ↔ c = '\n' ∨ c = '\u2028' ∨ c = '\u2029' := by
  simp [Written.isBreak, or_assoc]

theorem isBreak_written (written : Written.isBreak c = true) : Scan.isBreak c = true := by
  rcases isBreak_iff.1 written with rfl | rfl | rfl <;> rfl

theorem not_isBlank_of_isBreak (written : Written.isBreak c = true) : Scan.isBlank c = false := by
  rcases isBreak_iff.1 written with rfl | rfl | rfl <;> rfl

/-- A character that can stand at the start of a word. -/
def IsSolid (c : Char) : Prop := Scan.isBlank c = false ∧ Scan.isBreak c = false

instance (c : Char) : Decidable (IsSolid c) := inferInstanceAs (Decidable (_ ∧ _))

theorem isSolid_of_isPrintable (printable : Written.isPrintable c = true) (blank : c ≠ ' ')
    (line : Written.isBreak c = false) : IsSolid c := by
  refine ⟨?_, ?_⟩
  · simpa [isBlank_of_isPrintable printable] using blank
  · rwa [isBreak_of_isPrintable printable]

end Characters

/-- A text is a word, or a word with a gap and another text behind it. `isGap` tells the characters
of gaps. -/
theorem words_induction {P : List Char → Prop} (isGap : Char → Bool)
    (last : ∀ word, (∀ c ∈ word, isGap c = false) → P word)
    (more : ∀ word gap rest, (∀ c ∈ word, isGap c = false) → gap ≠ [] → (∀ c ∈ gap, isGap c = true) →
      (∀ c ∈ rest.head?, isGap c = false) → P rest → P (word ++ gap ++ rest))
    (s : List Char) : P s := by
  induction length : s.length using Nat.strongRecOn generalizing s with
  | ind n ih =>
    subst length
    have word : ∀ c ∈ s.takeWhile (!isGap ·), isGap c = false := fun c member => by
      simpa using List.mem_takeWhile_imp member
    rcases behind : s.dropWhile (!isGap ·) with _ | ⟨c, others⟩
    · have whole : s.takeWhile (!isGap ·) = s := by
        simpa [behind] using List.takeWhile_append_dropWhile (p := (!isGap ·)) (l := s)
      exact last s (by rwa [whole] at word)
    · have starts : isGap c = true := by
        have head := List.head?_dropWhile_not (!isGap ·) s
        simpa [behind] using head
      have shape : s.takeWhile (!isGap ·) ++ (c :: others).takeWhile isGap ++
          (c :: others).dropWhile isGap = s := by
        rw [List.append_assoc, List.takeWhile_append_dropWhile, ← behind,
          List.takeWhile_append_dropWhile]
      rw [← shape]
      refine more _ _ _ word (by simp [starts]) (fun d member => List.mem_takeWhile_imp member) ?_ ?_
      · have head := List.head?_dropWhile_not isGap (c :: others)
        intro d found
        simpa [Option.mem_def.1 found] using head
      · refine ih _ ?_ _ rfl
        have shorter := congrArg List.length shape
        simp only [List.length_append, List.takeWhile_cons, starts, if_true, List.length_cons]
          at shorter
        omega

namespace Scan

variable {checkTab : Scan Unit} {column limit : Nat} {c : Char}
  {front rest blanks first others : List Char}

/-- No document starts or ends behind the start of a line. -/
theorem Takes.atIndicator (inside : column ≠ 0) : Takes atIndicator column [] rest false := by
  intro s at_
  have columns : decide (s.mark.column = 0) = false := by simpa [at_.column] using inside
  simp only [Scan.atIndicator, Action.run_bind]
  exact congrArg (fun at_ => (Except.ok (at_ && _), s)) columns

/-- No document starts or ends with another character. -/
theorem Takes.atIndicator_of_ne (dash : c ≠ '-') (dot : c ≠ '.') :
    Takes Scan.atIndicator column [] (c :: rest) false := by
  intro s at_
  have shape : s.rest = c :: rest := at_.rest
  simp only [Scan.atIndicator, Action.run_bind]
  refine congrArg (fun at_ => (Except.ok at_, s)) ?_
  simp [shape, dash, dot]

/-- Once a line has ended only line ends count. -/
theorem takes_gap_broken (inside : ∀ c ∈ front, c = ' ' ∨ Written.isBreak c = true)
    (outside : ∀ c ∈ rest.head?, IsSolid c)
    (looks : ∀ column text, Takes checkTab column [] (' ' :: text) ())
    (enough : front.length < limit) :
    Takes (gap checkTab true blanks first others limit) column front rest
      (true, blanks, first, others ++ front.filter Written.isBreak) := by
  induction front generalizing column others limit with
  | nil =>
    obtain ⟨limit, rfl⟩ := Nat.exists_eq_add_one_of_ne_zero (Nat.ne_zero_of_lt enough)
    rw [gap]
    refine (Takes.peek 0).bind_looking ?_
    cases rest with
    | nil => simpa using Takes.pure column [] _
    | cons c rest =>
      obtain ⟨blank, line⟩ := outside c rfl
      simpa [blank, line] using Takes.pure column (c :: rest) _
  | cons c front ih =>
    obtain ⟨limit, rfl⟩ := Nat.exists_eq_add_one_of_ne_zero (Nat.ne_zero_of_lt enough)
    have later := fun d member => inside d (List.mem_cons_of_mem c member)
    rw [gap]
    refine (Takes.peek 0).bind_looking ?_
    simp only [List.cons_append, List.getElem?_cons_zero]
    rcases inside c List.mem_cons_self with rfl | line
    · rw [if_pos (by decide), if_pos trivial]
      refine (looks column _).bind_looking ?_
      refine .bind_char (.skip (by decide)) ?_
      have others_eq : (' ' :: front).filter Written.isBreak = front.filter Written.isBreak := rfl
      rw [others_eq]
      exact ih later (Nat.lt_of_succ_lt_succ enough)
    · rw [if_neg (by simp [not_isBlank_of_isBreak line]), if_pos (isBreak_written line)]
      refine .bind_char (.lineEnd (isBreak_iff.1 line)) ?_
      rw [if_pos trivial, List.filter_cons_of_pos line]
      simpa using @ih _ _ (others ++ [c]) later (Nat.lt_of_succ_lt_succ enough)

/-- Blanks in a line count. -/
theorem takes_gap_blanks (inside : ∀ c ∈ front, c = ' ') (outside : ∀ c ∈ rest.head?, IsSolid c)
    (enough : front.length < limit) :
    Takes (gap checkTab false blanks first others limit) column front rest
      (false, blanks ++ front, first, others) := by
  induction front generalizing column blanks limit with
  | nil =>
    obtain ⟨limit, rfl⟩ := Nat.exists_eq_add_one_of_ne_zero (Nat.ne_zero_of_lt enough)
    rw [gap]
    refine (Takes.peek 0).bind_looking ?_
    cases rest with
    | nil => simpa using Takes.pure column [] _
    | cons c rest =>
      obtain ⟨blank, line⟩ := outside c rfl
      simpa [blank, line] using Takes.pure column (c :: rest) _
  | cons c front ih =>
    obtain ⟨limit, rfl⟩ := Nat.exists_eq_add_one_of_ne_zero (Nat.ne_zero_of_lt enough)
    obtain rfl := inside c List.mem_cons_self
    rw [gap]
    refine (Takes.peek 0).bind_looking ?_
    simp only [List.cons_append, List.getElem?_cons_zero]
    rw [if_pos (by decide), if_neg (by decide)]
    refine .bind_char (.skip (by decide)) ?_
    simpa using @ih _ _ (blanks ++ [' '])
      (fun d member => inside d (List.mem_cons_of_mem _ member)) (Nat.lt_of_succ_lt_succ enough)

/-- The first line end is kept apart, and the blanks before it do not count. -/
theorem takes_gap_breaks (line : Written.isBreak c = true)
    (inside : ∀ c ∈ front, c = ' ' ∨ Written.isBreak c = true)
    (outside : ∀ c ∈ rest.head?, IsSolid c)
    (looks : ∀ column text, Takes checkTab column [] (' ' :: text) ())
    (enough : front.length + 1 < limit) :
    Takes (gap checkTab false blanks first [] limit) column (c :: front) rest
      (true, [], [c], front.filter Written.isBreak) := by
  obtain ⟨limit, rfl⟩ := Nat.exists_eq_add_one_of_ne_zero (Nat.ne_zero_of_lt enough)
  rw [gap]
  refine (Takes.peek 0).bind_looking ?_
  simp only [List.cons_append, List.getElem?_cons_zero]
  rw [if_neg (by simp [not_isBlank_of_isBreak line]), if_pos (isBreak_written line)]
  refine .bind_char (.lineEnd (isBreak_iff.1 line)) ?_
  rw [if_neg (by decide)]
  exact takes_gap_broken inside outside looks (Nat.lt_of_succ_lt_succ enough)

end Scan

end ModelForge.Yaml
