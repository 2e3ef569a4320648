import Mathlib.Data.Bool.AllAny
import Mathlib.Data.List.Basic
import ModelForge.Proofs.Yaml.Gap

/-! Literal scalars are read back. A scan takes the lines and the line ends between them; the header
tells which of the line ends behind the last line belong to the text. -/
namespace ModelForge.Yaml.Scan

variable {column limit : Nat} {c : Char} {text pending breaks front word gap s rest : List Char}

/-- A text at the start of a line or within one, as it is written with its indentation. -/
abbrev lines (broken : Bool) (s : List Char) : List Char := Written.indented (fun c => [c]) broken s

section Lines

theorem lines_word (broken : Bool) (some : word ≠ []) (solid : ∀ c ∈ word, Written.isBreak c = false)
    (s : List Char) : lines broken (word ++ s) =
      (if broken then Written.indentation else []) ++ (word ++ lines false s) := by
  induction word generalizing broken with
  | nil => exact absurd rfl some
  | cons c word ih =>
    have one := solid c List.mem_cons_self
    rw [List.cons_append, lines, Written.indented, if_neg (by simp [one]), List.append_assoc]
    cases word with
    | nil => rfl
    | cons d word =>
      rw [← lines, ih false (by simp) fun e member => solid e (List.mem_cons_of_mem c member)]
      rfl

theorem lines_breaks {broken : Bool} (some : gap ≠ [])
    (ends : ∀ c ∈ gap, Written.isBreak c = true) (s : List Char) :
    lines broken (gap ++ s) = gap ++ lines true s := by
  induction gap generalizing broken with
  | nil => exact absurd rfl some
  | cons c gap ih =>
    rw [List.cons_append, lines, Written.indented, if_pos (ends c List.mem_cons_self)]
    cases gap with
    | nil => rfl
    | cons d gap =>
      rw [← lines, ih (by simp) fun e member => ends e (List.mem_cons_of_mem c member)]
      rfl

/-- A line is indented, whatever it starts with. -/
theorem lines_true (some : s ≠ []) (starts : ∀ c ∈ s.head?, Written.isBreak c = false) :
    lines true s = Written.indentation ++ lines false s := by
  obtain ⟨c, s, rfl⟩ := List.exists_cons_of_ne_nil some
  simp [lines, Written.indented, starts c rfl]

theorem length_le_lines (broken : Bool) (s : List Char) : s.length ≤ (lines broken s).length := by
  induction s generalizing broken with
  | nil => simp
  | cons c s ih =>
    have after_end := ih true
    have within := ih false
    rw [lines] at after_end within ⊢
    rw [Written.indented]
    split <;> simp only [List.length_cons, List.length_append, List.length_nil] <;> omega

end Lines

section Breaks

theorem isBreak_indentation : ∀ c ∈ Written.indentation, isBreak c = false :=
  List.all_iff_forall_prop.1 (by decide)

/-- What stands behind empty lines: a line with its indentation, or no line of the scalar. -/
inductive Follows : List Char → List Char → Prop where
  | line {c : Char} {rest : List Char} (solid : isBreak c = false) (tab : c ≠ '\t') :
      Follows Written.indentation (c :: rest)
  | nothing {rest : List Char} (outside : ∀ c ∈ rest.head?, IsSolid c) : Follows [] rest

theorem takes_blockBreaks {widest : Nat} (ends : ∀ c ∈ gap, Written.isBreak c = true)
    (follows : Follows front rest) (enough : gap.length < limit) :
    Takes (blockBreaks 2 widest breaks limit) 0 (gap ++ front) rest (2, breaks ++ gap) := by
  have room {s : ScanState} {text : List Char} (at_ : At s 0 text) :
      (if 2 = 0 then (s.rest.takeWhile (· == ' ')).length
        else min (2 - s.mark.column) (s.rest.takeWhile (· == ' ')).length) =
          min 2 (text.takeWhile (· == ' ')).length := by
    simp [at_.rest, at_.column]
  induction gap generalizing breaks widest limit with
  | nil =>
    obtain ⟨limit, rfl⟩ := Nat.exists_eq_add_one_of_ne_zero (Nat.ne_zero_of_lt enough)
    rw [blockBreaks, List.append_nil]
    refine .get fun s at_ => ?_
    simp only [room at_]
    cases follows with
    | @line c rest solid tab =>
      have spaces : min 2 (([] ++ Written.indentation ++ c :: rest).takeWhile (· == ' ')).length =
          Written.indentation.length := by
        simp [Written.indentation]
      rw [spaces]
      refine .bind_done (.skipMany _ isBreak_indentation) (.here fun mark first => ?_)
      refine (Takes.peek 0).bind_looking ?_
      rw [if_neg (by simp [tab])]
      simpa [solid] using Takes.pure _ _ _
    | nothing outside =>
      have spaces : min 2 (([] ++ [] ++ rest).takeWhile (· == ' ')).length = 0 := by
        cases rest with
        | nil => rfl
        | cons c rest =>
          have solid : (c == ' ') = false := (Bool.or_eq_false_iff.1 (outside c rfl).1).1
          simp [solid]
      rw [spaces]
      refine .bind_looking (.pure _ _ ()) (.here fun mark first => (Takes.peek 0).bind_looking ?_)
      cases rest with
      | nil => simpa using Takes.pure _ _ _
      | cons c rest =>
        obtain ⟨blank, line⟩ := outside c rfl
        have tab : c ≠ '\t' := by
          rintro rfl
          cases blank
        simpa [tab, line] using Takes.pure _ _ _
  | cons c gap ih =>
    obtain ⟨limit, rfl⟩ := Nat.exists_eq_add_one_of_ne_zero (Nat.ne_zero_of_lt enough)
    have line := ends c List.mem_cons_self
    have blank : (c == ' ') = false := (Bool.or_eq_false_iff.1 (not_isBlank_of_isBreak line)).1
    have spaces : min 2 ((c :: gap ++ front ++ rest).takeWhile (· == ' ')).length = 0 := by
      simp [blank]
    have tab : c ≠ '\t' := by
      rintro rfl
      cases line
    rw [blockBreaks]
    refine .get fun s at_ => ?_
    simp only [room at_]
    rw [spaces]
    refine .bind_looking (.pure _ _ ()) (.here fun mark first => (Takes.peek 0).bind_looking ?_)
    rw [if_neg (by simp [tab])]
    simp only [List.cons_append, List.getElem?_cons_zero, Option.any_some, isBreak_written line]
    refine .bind_char (.lineEnd (isBreak_iff.1 line)) ?_
    have starts : columnPast 0 [c] = 0 := by simp [columnPast, isBreak_written line]
    rw [starts]
    simpa using @ih _ (breaks ++ [c]) _ (fun d member => ends d (List.mem_cons_of_mem c member))
      (Nat.lt_of_succ_lt_succ enough)

/-- The indentation of the first line is found out where the header does not tell it. -/
theorem takes_blockBreaks_first (solid : IsSolid c) :
    Takes (blockBreaks 0 0 [] (limit + 1)) 0 Written.indentation (c :: rest) (2, []) := by
  rw [blockBreaks]
  refine .get fun s at_ => ?_
  have blank : (c == ' ') = false := (Bool.or_eq_false_iff.1 solid.1).1
  have spaces : (s.rest.takeWhile (· == ' ')).length = Written.indentation.length := by
    simp [at_.rest, Written.indentation, blank]
  have outer := at_.outermost
  simp only [spaces]
  refine .bind_done (.skipMany _ isBreak_indentation) (.here fun mark first => ?_)
  refine (Takes.peek 0).bind_looking ?_
  have tab : c ≠ '\t' := by
    rintro rfl
    cases solid.1
  rw [if_neg (by simp [tab])]
  have widest : max (max (max 0 mark.column) (s.indent + 1).toNat) 1 = 2 := by
    rw [first]
    change max (max (max 0 2) _) 1 = 2
    omega
  simp only [List.nil_append, List.getElem?_cons_zero, Option.any_some, solid.2, Bool.false_eq_true,
    if_false, if_true, widest]
  exact .pure _ _ _

end Breaks

section Scalars

theorem columnPast_breaks (ends : ∀ c ∈ gap, Written.isBreak c = true) :
    columnPast 0 gap = 0 := by
  induction gap with
  | nil => rfl
  | cons c gap ih =>
    have others := ih fun d member => ends d (List.mem_cons_of_mem c member)
    simpa [columnPast, isBreak_written (ends c List.mem_cons_self)] using others

/-- One line with the line ends behind it. -/
theorem takes_blockLine {blank : Bool} {result : List Char × List Char × List Char}
    {more : List Char} (solid : ∀ c ∈ word, isBreak c = false)
    (line : Written.isBreak c = true) (ends : ∀ c ∈ gap, Written.isBreak c = true)
    (follows : Follows front (more ++ rest))
    (then_ : ∀ blank, Takes (blockLines true 2 (text ++ pending ++ breaks ++ word) [c] gap blank limit)
      (columnPast 0 front) more rest result) :
    Takes (blockLines true 2 text pending breaks blank (limit + 1)) 2
      (word ++ (c :: (gap ++ front ++ more))) rest result := by
  have back (column : Nat) : columnPast column [c] = 0 := by simp [columnPast, isBreak_written line]
  rw [blockLines]
  refine .get fun s at_ => ?_
  rw [if_pos ⟨at_.column, by simp [at_.rest]⟩]
  simp only [Bool.not_true, Bool.false_and, Bool.false_eq_true, if_false]
  have words : Takes restOfLine 2 word (c :: (gap ++ front ++ more) ++ rest) word :=
    .takeWhile (by simpa using solid) solid (by simp [isBreak_written line])
  refine words.bind (.bind_char (.lineEnd (isBreak_iff.1 line)) ?_)
  rw [back]
  refine .bind (takes_blockBreaks ends follows ?_) ?_
  · simp only [at_.rest, List.length_append, List.length_cons]
    omega
  · rw [columnPast_append, columnPast_breaks ends]
    exact then_ _

theorem takes_blockLines_end {blank : Bool} :
    Takes (blockLines true 2 text pending breaks blank limit) 0 [] rest (text, pending, breaks) := by
  cases limit with
  | zero => exact .pure 0 rest _
  | succ limit =>
    rw [blockLines]
    refine .get fun s at_ => ?_
    rw [if_neg fun same => absurd (at_.column.symm.trans same.1) (by decide)]
    exact .pure 0 rest _

/-- How the header of a scalar says which line ends behind the last line belong to it. -/
def Chomping.sign : Chomping → List Char
  | .strip => ['-']
  | .clip => []
  | .keep => ['+']

/-- What is kept of a text, the end of its last line and the empty lines behind it. -/
def Chomping.kept (chomping : Chomping) (text pending breaks : List Char) : List Char :=
  text ++ (if chomping = .strip then [] else pending) ++ (if chomping = .keep then breaks else [])

/-- The line end that is written behind a text that has none. -/
def lastEnd (s : List Char) : List Char := if s.getLast?.any Written.isBreak then [] else ['\n']

theorem chomping_concat (s : List Char) (c : Char) : Written.chomping (s ++ [c]) =
    if Written.isBreak c then if s.getLast?.all Written.isBreak then ['+'] else [] else ['-'] := by
  rw [Written.chomping, List.reverse_concat, List.getLast?_eq_head?_reverse]
  cases s.reverse with
  | nil => cases line : Written.isBreak c <;> simp [line]
  | cons d s => cases line : Written.isBreak c <;> simp only [line] <;> rfl

/-- Where something follows that does not start with a line end, what stands before does not
matter. -/
theorem chomping_append {others : List Char} (some : others ≠ [])
    (starts : ∀ c ∈ others.head?, Written.isBreak c = false) (before : List Char) :
    Written.chomping (before ++ others) = Written.chomping others := by
  obtain rfl | ⟨init, last, rfl⟩ := List.eq_nil_or_concat' others
  · exact absurd rfl some
  rw [← List.append_assoc, chomping_concat, chomping_concat]
  cases init with
  | nil => simp [starts last rfl]
  | cons c init => rw [List.getLast?_append_of_ne_nil before (by simp)]

theorem chomping_word (some : word ≠ []) (solid : ∀ c ∈ word, Written.isBreak c = false) :
    Written.chomping word = ['-'] := by
  obtain rfl | ⟨init, last, rfl⟩ := List.eq_nil_or_concat' word
  · exact absurd rfl some
  · simp [chomping_concat, solid last (by simp)]

theorem chomping_line (some : word ≠ []) (solid : ∀ c ∈ word, Written.isBreak c = false)
    (line : Written.isBreak c = true) : Written.chomping (word ++ [c]) = [] := by
  have last := List.getLast?_eq_some_getLast some
  simp [chomping_concat, line, last, solid _ (List.getLast_mem some)]

theorem chomping_lines {d : Char} (line : Written.isBreak c = true)
    (ends : ∀ c ∈ d :: gap, Written.isBreak c = true) (before : List Char) :
    Written.chomping (before ++ c :: d :: gap) = ['+'] := by
  obtain ⟨init, last, shape⟩ := (List.eq_nil_or_concat' (d :: gap)).resolve_left (by simp)
  have within : ∀ e ∈ init ++ [last], Written.isBreak e = true := shape ▸ ends
  have before_last : ((before ++ c :: init).getLast?.all Written.isBreak) = true := by
    cases final : init.getLast? with
    | none => simp [List.getLast?_append, List.getLast?_cons, final, line]
    | some e =>
      have member := List.mem_of_getLast? final
      simp [List.getLast?_append, List.getLast?_cons, final, within e (by simp [member])]
  rw [shape, show before ++ c :: (init ++ [last]) = (before ++ c :: init) ++ [last] by simp,
    chomping_concat, if_pos (within last (by simp)), if_pos before_last]

theorem chomping_breaks (some : gap ≠ []) (ends : ∀ c ∈ gap, Written.isBreak c = true) :
    Written.chomping gap = ['+'] := by
  match gap, some with
  | [c], _ => simp [Written.chomping, ends c (by simp)]
  | c :: d :: gap, _ =>
    exact chomping_lines (ends c (by simp)) (fun e member => ends e (by simp [member])) []

/-- A text that does not start with a line end, from its first line on. -/
theorem takes_blockLines (text pending breaks : List Char) (some : s ≠ [])
    (starts : ∀ c ∈ s.head?, Written.isBreak c = false)
    (printable : ∀ c ∈ s, Written.isPrintable c = true) (outside : ∀ c ∈ rest.head?, IsSolid c) :
    ∃ chomping kept pending' breaks', Written.chomping s = Chomping.sign chomping ∧
      chomping.kept kept pending' breaks' = text ++ pending ++ breaks ++ s ∧
      ∀ blank limit, s.length < limit → Takes (blockLines true 2 text pending breaks blank limit) 2
        (lines false s ++ lastEnd s) rest (kept, pending', breaks') := by
  induction s using words_induction Written.isBreak generalizing text pending breaks with
  | last word solid =>
    have shape : lines false word = word := by
      simpa [lines, Written.indented] using lines_word false some solid []
    have ending : lastEnd word = ['\n'] := by
      have last := List.getLast?_eq_some_getLast some
      simp [lastEnd, last, solid _ (List.getLast_mem some)]
    refine ⟨.strip, text ++ pending ++ breaks ++ word, ['\n'], [], chomping_word some solid,
      by simp [Chomping.kept], fun blank limit enough => ?_⟩
    obtain ⟨limit, rfl⟩ := Nat.exists_eq_add_one_of_ne_zero (Nat.ne_zero_of_lt enough)
    rw [shape, ending]
    have solids : ∀ c ∈ word, isBreak c = false := fun c member => by
      rw [isBreak_of_isPrintable (printable c member), solid c member]
    have read : Takes (blockLines true 2 text pending breaks blank (limit + 1)) 2
        (word ++ '\n' :: ([] ++ [] ++ [])) rest _ :=
      takes_blockLine solids (by decide) (by simp) (.nothing (by simpa using outside))
        fun blank => takes_blockLines_end
    simpa using read
  | more word gap others solid some' ends next ih =>
    obtain ⟨c, gap, rfl⟩ := List.exists_cons_of_ne_nil some'
    obtain ⟨line, empty⟩ := List.forall_mem_cons.1 ends
    have words : word ≠ [] := by
      rintro rfl
      simp [starts c rfl] at line
    have solids : ∀ d ∈ word, isBreak d = false := fun d member => by
      rw [isBreak_of_isPrintable (printable d (by simp [member])), solid d member]
    have shape : lines false (word ++ c :: gap ++ others) = word ++ (c :: gap ++ lines true others) := by
      rw [List.append_assoc, lines_word false words solid, lines_breaks some' ends]
      rfl
    rw [shape]
    rcases others.eq_nil_or_concat' with rfl | ⟨init, last, rest_eq⟩
    · have ending : lastEnd (word ++ c :: gap ++ []) = [] := by
        have last := List.getLast?_eq_some_getLast some'
        simp [lastEnd, List.getLast?_append, last, ends _ (List.getLast_mem some')]
      have none : lines true [] = [] := rfl
      have kept : text ++ pending ++ breaks ++ (word ++ c :: gap ++ []) =
          text ++ pending ++ breaks ++ word ++ [c] ++ gap := by simp
      have reads (blank : Bool) (limit : Nat) (enough : (word ++ c :: gap).length < limit) :
          Takes (blockLines true 2 text pending breaks blank limit) 2 (word ++ (c :: gap ++ [])) rest
            (text ++ pending ++ breaks ++ word, [c], gap) := by
        obtain ⟨limit, rfl⟩ := Nat.exists_eq_add_one_of_ne_zero (Nat.ne_zero_of_lt enough)
        have read : Takes (blockLines true 2 text pending breaks blank (limit + 1)) 2
            (word ++ c :: (gap ++ [] ++ [])) rest _ :=
          takes_blockLine solids line empty (.nothing (by simpa using outside))
            fun blank => takes_blockLines_end
        simpa using read
      rw [ending, none, kept, List.append_nil (word ++ _), List.append_nil]
      cases gap with
      | nil =>
        exact ⟨.clip, _, _, _, chomping_line words solid line, rfl, reads⟩
      | cons d gap =>
        exact ⟨.keep, _, _, _, chomping_lines line empty word, rfl, reads⟩
    · have more : others ≠ [] := by simp [rest_eq]
      have ending : lastEnd (word ++ c :: gap ++ others) = lastEnd others := by
        simp only [lastEnd, List.getLast?_append_of_ne_nil _ more]
      obtain ⟨chomping, kept, pending', breaks', sign, keeps, reads⟩ :=
        ih (text ++ pending ++ breaks ++ word) [c] gap more next
          fun d member => printable d (by simp [member])
      refine ⟨chomping, kept, pending', breaks', ?_, ?_, fun blank limit enough => ?_⟩
      · rw [chomping_append more next, sign]
      · rw [keeps]
        simp
      · have follows : Follows Written.indentation (lines false others ++ lastEnd others ++ rest) := by
          obtain ⟨d, tail, rfl⟩ := List.exists_cons_of_ne_nil more
          have shown := printable d (by simp)
          have plain := next d rfl
          have tab : d ≠ '\t' := by
            rintro rfl
            cases shown
          simpa [lines, Written.indented, plain] using
            Follows.line (by rwa [isBreak_of_isPrintable shown]) tab
        obtain ⟨limit, rfl⟩ := Nat.exists_eq_add_one_of_ne_zero (Nat.ne_zero_of_lt enough)
        have shorter : others.length < limit := by
          simp only [List.length_append, List.length_cons] at enough
          omega
        rw [ending, lines_true more next]
        simpa using takes_blockLine solids line empty follows fun blank => reads blank limit shorter

/-- What a header gives, if it gives anything. -/
def Chomping.given : Chomping → Option Chomping
  | .strip => some .strip
  | .clip => none
  | .keep => some .keep

theorem takes_chompingSign (chomping : Chomping)
    (outside : ∀ c ∈ rest.head?, c ≠ '+' ∧ c ≠ '-') :
    Takes chompingSign column chomping.sign rest chomping.given := by
  rw [chompingSign]
  cases chomping with
  | strip => exact (Takes.peek 0).bind_looking (.bind_done (.skip (by decide)) (.pure _ _ _))
  | keep => exact (Takes.peek 0).bind_looking (.bind_done (.skip (by decide)) (.pure _ _ _))
  | clip =>
    refine (Takes.peek 0).bind_looking ?_
    cases rest with
    | nil => exact .pure _ _ _
    | cons c rest =>
      obtain ⟨plus, minus⟩ := outside c rfl
      split
      · rename_i found
        exact absurd (Option.some.inj found) plus
      · rename_i found
        exact absurd (Option.some.inj found) minus
      · exact .pure _ _ _

/-- The lines of a text: the empty ones at its start, and the others from the first on. -/
theorem takes_blockText (some : s ≠ []) (printable : ∀ c ∈ s, Written.isPrintable c = true)
    (outside : ∀ c ∈ rest.head?, IsSolid c) :
    ∃ gap front more chomping kept pending breaks, lines true s ++ lastEnd s = gap ++ front ++ more ∧
      (∀ c ∈ gap, Written.isBreak c = true) ∧ Follows front (more ++ rest) ∧
      ((∀ c ∈ s.head?, Written.isBreak c = false) →
        gap = [] ∧ front = Written.indentation ∧ more.head? = s.head?) ∧
      Written.chomping s = Chomping.sign chomping ∧ chomping.kept kept pending breaks = s ∧
      ∀ limit, s.length < limit → Takes (blockLines true 2 [] [] gap false limit)
        (columnPast 0 front) more rest (kept, pending, breaks) := by
  have shape : s.takeWhile Written.isBreak ++ s.dropWhile Written.isBreak = s :=
    List.takeWhile_append_dropWhile
  have ends : ∀ c ∈ s.takeWhile Written.isBreak, Written.isBreak c = true :=
    fun c member => List.mem_takeWhile_imp member
  have starts : ∀ c ∈ (s.dropWhile Written.isBreak).head?, Written.isBreak c = false := by
    have head := List.head?_dropWhile_not Written.isBreak s
    intro c found
    simpa [Option.mem_def.1 found] using head
  generalize s.takeWhile Written.isBreak = gap at shape ends
  generalize s.dropWhile Written.isBreak = others at shape starts
  subst shape
  have lined : lines true (gap ++ others) = gap ++ lines true others := by
    rcases gap.eq_nil_or_concat' with rfl | ⟨_, _, gap_eq⟩
    · rfl
    · exact lines_breaks (by simp [gap_eq]) ends others
  rw [lined]
  rcases others.eq_nil_or_concat' with rfl | ⟨_, _, others_eq⟩
  · have breaks : gap ≠ [] := by simpa using some
    have ending : lastEnd (gap ++ []) = [] := by
      have last := List.getLast?_eq_some_getLast breaks
      simp [lastEnd, last, ends _ (List.getLast_mem breaks)]
    refine ⟨gap, [], [], .keep, [], [], gap, ?_, ends, .nothing (by simpa using outside),
      fun solid => ?_, ?_, by simp [Chomping.kept], fun limit _ => takes_blockLines_end⟩
    · rw [ending]
      rfl
    · obtain ⟨c, gap, rfl⟩ := List.exists_cons_of_ne_nil breaks
      exact absurd (ends c List.mem_cons_self) (by simp [solid c rfl])
    · rw [List.append_nil, chomping_breaks breaks ends]
      rfl
  · have more : others ≠ [] := by simp [others_eq]
    have ending : lastEnd (gap ++ others) = lastEnd others := by
      simp only [lastEnd, List.getLast?_append_of_ne_nil _ more]
    obtain ⟨d, tail, tail_eq⟩ := List.exists_cons_of_ne_nil more
    have shown := printable d (by simp [tail_eq])
    have plain := starts d (by simp [tail_eq])
    have tab : d ≠ '\t' := by
      rintro rfl
      cases shown
    obtain ⟨behind, first⟩ : ∃ behind, lines false others ++ lastEnd others = d :: behind := by
      simp [tail_eq, lines, Written.indented, plain]
    obtain ⟨chomping, kept, pending, breaks, sign, keeps, reads⟩ := takes_blockLines [] []
      gap more starts (fun c member => printable c (by simp [member]))
      outside
    refine ⟨gap, Written.indentation, lines false others ++ lastEnd others, chomping, kept, pending,
      breaks, ?_, ends, ?_, ?_, ?_, by simpa using keeps, ?_⟩
    · rw [ending, lines_true more starts]
      simp
    · rw [first]
      exact .line (by rwa [isBreak_of_isPrintable shown]) tab
    · intro solid
      cases gap with
      | nil => exact ⟨rfl, rfl, by rw [first, List.nil_append, tail_eq]; rfl⟩
      | cons c gap => exact absurd (ends c List.mem_cons_self) (by simp [solid c rfl])
    · rw [chomping_append more starts, sign]
    · intro limit enough
      rw [List.length_append] at enough
      exact reads false limit (by omega)

/-- What tells the indentation in a header, if anything does. -/
theorem takes_indentationDigit {digit : List Char}
    (shape : digit = ['2'] ∨ digit = [] ∧ rest.head? = some '\n') :
    Takes indentationDigit column digit rest (2 * digit.length) := by
  rw [indentationDigit]
  refine (Takes.peek 0).bind_looking ?_
  rcases shape with rfl | ⟨rfl, feed⟩
  · exact .bind_done (.skip (by decide)) (.pure _ _ _)
  · obtain ⟨_, rfl⟩ := List.head?_eq_some_iff.1 feed
    exact .pure _ _ _

/-- The header of a literal, up to what follows with what it gives. -/
theorem leads_header {digit more : List Char} {chomping : Chomping} {α : Type}
    {next : Option Chomping → Nat → Option Chomping → Scan α}
    {Post : ScanState → Except Malformed α × ScanState → Prop} (shape : digit = ['2'] ∨ digit = [])
    (then_ : ∀ column before after, (before.orElse fun _ => after).getD .clip = chomping →
      Leads (next before (2 * digit.length) after) column ('\n' :: more) rest Post) :
    Leads (do
      let before ← chompingSign
      let increment ← indentationDigit
      if before.isNone then chompingSign >>= next before increment
      else pure none >>= next before increment) column
      (digit ++ (chomping.sign ++ '\n' :: more)) rest Post := by
  have feed : ∀ c ∈ ('\n' :: more ++ rest).head?, c ≠ '+' ∧ c ≠ '-' := by
    rintro _ ⟨⟩
    decide
  rcases shape with rfl | rfl
  · refine .bind_looking (takes_chompingSign .clip fun c found => ?_) ?_
    · obtain rfl := Option.some.inj found
      decide
    refine .bind (takes_indentationDigit (.inl rfl)) ?_
    rw [if_pos (by rfl)]
    refine .bind (takes_chompingSign chomping feed) (then_ _ _ _ ?_)
    cases chomping <;> rfl
  · rw [List.nil_append]
    refine .bind (takes_chompingSign chomping feed) ?_
    refine .bind_looking (takes_indentationDigit (.inr ⟨rfl, rfl⟩)) ?_
    cases chomping with
    | strip => exact .bind_looking (.pure _ _ none) (then_ _ _ _ rfl)
    | keep => exact .bind_looking (.pure _ _ none) (then_ _ _ _ rfl)
    | clip => exact .bind_looking (takes_chompingSign .clip feed) (then_ _ _ _ rfl)

/-- A literal is read back. -/
theorem yields_literal (some : s ≠ []) (printable : ∀ c ∈ s, Written.isPrintable c = true)
    (outside : ∀ c ∈ rest.head?, IsSolid c) :
    Yields (blockScalar true) column (Written.literal s ++ lastEnd s) rest
      (.scalar (String.ofList s) .literal) true := by
  obtain ⟨gap, front, more, chomping, kept, pending, breaks, shape, ends, follows, first, sign, keeps,
    reads⟩ := takes_blockText some printable outside
  -- The indentation is told where the first line does not show it.
  obtain ⟨digit, told, shown⟩ : ∃ digit, (if s.head?.any fun c => c == ' ' || Written.isBreak c then
      ['2'] else []) = digit ∧ (digit = ['2'] ∨ digit = [] ∧ gap = [] ∧ front = Written.indentation ∧
        ∃ c behind, more = c :: behind ∧ IsSolid c) := by
    refine ⟨_, rfl, ?_⟩
    split
    case isTrue => exact .inl rfl
    case isFalse solid =>
      obtain ⟨c, tail, rfl⟩ := List.exists_cons_of_ne_nil some
      simp only [List.head?_cons, Option.any_some, Bool.or_eq_true, beq_iff_eq, not_or] at solid
      obtain ⟨none, indented, head⟩ := first fun d found => by
        obtain rfl := Option.some.inj found
        simpa using solid.2
      obtain ⟨behind, rfl⟩ := List.head?_eq_some_iff.1 head
      exact .inr ⟨rfl, none, indented, c, behind, rfl,
        isSolid_of_isPrintable (printable c (by simp)) solid.1 (by simpa using solid.2)⟩
  have written : Written.literal s ++ lastEnd s =
      '|' :: (digit ++ (chomping.sign ++ '\n' :: (gap ++ front ++ more))) := by
    simp [Written.literal, ← sign, ← shape, told]
  have indentation {indent : Int} (outer : indent ≤ 0) {limit : Nat} (enough : gap.length < limit) :
      Takes (blockBreaks (if 2 * digit.length = 0 then 0
        else if 0 ≤ indent then indent.toNat + 2 * digit.length else 2 * digit.length) 0 [] limit) 0
        (gap ++ front) (more ++ rest) (2, gap) := by
    rcases shown with rfl | ⟨rfl, rfl, rfl, c, behind, rfl, solid⟩
    · have two : (if 2 * ['2'].length = 0 then 0
          else if 0 ≤ indent then indent.toNat + 2 * ['2'].length else 2 * ['2'].length) = 2 := by
        simp
        omega
      rw [two]
      exact takes_blockBreaks ends follows enough
    · obtain ⟨limit, rfl⟩ := Nat.exists_eq_add_one_of_ne_zero (Nat.ne_zero_of_lt enough)
      exact takes_blockBreaks_first solid
  change Yields _ _ _ _ _ (id true)
  refine .block (.here fun start _ => ?_)
  rw [written]
  refine .bind_char (.skip (by decide)) (leads_header (shown.imp_right And.left)
    fun column before after given => ?_)
  refine .bind_looking (.takeWhile (by simp) (by simp) (by simp; decide)) (.bind_looking (.peek 0) ?_)
  rw [if_neg (by simp)]
  refine .bind_looking (.peek 0) ?_
  rw [if_neg (by simp; decide)]
  refine .bind_char (.lineEnd (.inl rfl)) (.get fun s' at_ => ?_)
  have start_of_line : columnPast column ['\n'] = 0 := rfl
  rw [start_of_line]
  have long := length_le_lines true s
  have whole := congrArg List.length shape
  simp only [List.length_append] at whole
  refine .bind (indentation at_.outermost ?_) ?_
  · simp only [at_.rest, List.length_append]
    omega
  rw [columnPast_append, columnPast_breaks ends]
  refine .bind_done (reads _ ?_) (.here fun stop _ => ?_)
  · simp only [at_.rest, List.length_append]
    omega
  rw [Chomping.kept] at keeps
  rw [given, keeps]
  exact Emits.emit start stop

end Scalars

end ModelForge.Yaml.Scan
