import ModelForge.Proofs.Yaml.Gap

/-! Steps of a scan at the outermost level. A step passes over what stands in front of a token and
goes by the character that the token starts with; a colon makes a key of the token before it. -/
namespace ModelForge.Yaml.Scan

variable {s t u : ScanState} {c : Char} {column limit : Nat} {front rest text : List Char}
  {scan : Scan Unit}

section Arrival

/-- A possible key that is near enough stays one. -/
def Near (s : ScanState) : Prop :=
  ∀ key ∈ s.keys, ∀ possible ∈ key,
    s.mark.line ≤ possible.mark.line ∧ s.mark.index ≤ possible.mark.index + keyLengthLimit

theorem near_of_none (keys : s.keys = [none]) : Near s := by
  simp [Near, keys]

theorem run_dropStaleKeys (near : Near s) : dropStaleKeys.run.run s = (.ok (), s) := by
  have fresh : ∀ key ∈ s.keys, ∀ possible ∈ key,
      (decide (possible.mark.line < s.mark.line) ||
        decide (possible.mark.index + keyLengthLimit < s.mark.index)) = false := by
    intro key member possible found
    obtain ⟨line, index⟩ := near key member possible found
    simp [line, index]
  have kept : s.keys.map (fun key => key.filter fun possible =>
      !(decide (possible.mark.line < s.mark.line) ||
        decide (possible.mark.index + keyLengthLimit < s.mark.index))) = s.keys := by
    refine (List.map_congr_left fun key member => ?_).trans (List.map_id s.keys)
    cases key with
    | none => rfl
    | some possible => rw [Option.filter_some, fresh _ member possible rfl]; rfl
  have unstale : (s.keys.any fun key => key.any fun possible => possible.required &&
      (decide (possible.mark.line < s.mark.line) ||
        decide (possible.mark.index + keyLengthLimit < s.mark.index))) = false := by
    refine List.any_eq_false.2 fun key member => ?_
    cases key with
    | none => simp
    | some possible => simp [fresh _ member possible rfl]
  simp only [dropStaleKeys, Action.run_bind, run_get, unstale, Bool.false_eq_true, if_false, kept]
  rfl

/-- Where no collection started further right none is closed. -/
theorem run_unroll {place : Int} (left : s.indent ≤ place) :
    (unroll place).run.run s = (.ok (), s) := by
  simp only [unroll, Action.run_bind, run_get, unrollTo]
  rw [if_neg (fun further => by omega)]
  rfl

/-- In front of a token stand blanks only. -/
theorem takes_toNextToken (front : List Char) (blank : ∀ c ∈ front, c = ' ')
    (outside : ∀ c ∈ rest.head?, IsSolid c ∧ c ≠ '#' ∧ c ≠ '\ufeff') :
    Takes (toNextToken (limit + 1)) column front rest () := by
  have unmarked : (front ++ rest).head? ≠ some '\ufeff' := by
    cases front with
    | nil => exact fun bad => (outside _ bad).2.2 rfl
    | cons c front => simp [blank c List.mem_cons_self]
  rw [toNextToken]
  refine .get fun s at_ => ?_
  rw [if_neg (by simpa [at_.rest] using fun _ => unmarked)]
  refine .get fun s at_ => ?_
  refine .bind_done (.takeWhile (by simpa using fun c member => .inl (blank c member)) ?_ ?_) ?_
  · exact fun c member => blank c member ▸ rfl
  · intro c found
    have solid := (outside c found).1.1
    simp only [isBlank, Bool.or_eq_false_iff] at solid
    simp [solid]
  refine .bind_looking (.peek 0) ?_
  have plain : ([] ++ rest)[0]? ≠ some '#' := by
    rw [List.nil_append, ← List.head?_eq_getElem?]
    exact fun bad => (outside _ bad).2.1 rfl
  have within : ([] ++ rest)[0]?.any isBreak = false := by
    rw [List.nil_append, ← List.head?_eq_getElem?]
    cases rest with
    | nil => rfl
    | cons c rest => exact (outside c rfl).1.2
  rw [if_neg plain]
  refine .bind_looking (.peek 0) ?_
  rw [if_neg (by simpa using within)]
  exact .pure _ rest ()

/-- Behind a line end a key is allowed. -/
theorem leads_toNextToken_line
    (outside : ∀ c ∈ rest.head?, IsSolid c ∧ c ≠ '#' ∧ c ≠ '\ufeff') :
    Leads (toNextToken (limit + 2)) column ['\n'] rest fun past outcome =>
      outcome = (.ok (), { past with keyAllowed := true }) := by
  rw [toNextToken]
  refine .get fun s at_ => ?_
  rw [if_neg (by simp [at_.rest])]
  refine .get fun s at_ => ?_
  refine .bind_looking (.takeWhile (by simp) (by simp) (by simp)) ?_
  refine .bind_looking (.peek 0) ?_
  rw [if_neg (by simp)]
  refine .bind_looking (.peek 0) ?_
  have line : (['\n'] ++ rest)[0]?.any isBreak = true := rfl
  rw [if_pos line]
  refine .bind_char (.lineEnd (.inl rfl)) (.bind_looking .inFlow ?_)
  rw [if_pos (by decide)]
  intro s at_
  rw [Action.run_bind, run_allowKey]
  have within : At { s with keyAllowed := true } (columnPast column ['\n']) ([] ++ rest) :=
    ⟨at_.1, at_.2, at_.3, at_.4⟩
  exact takes_toNextToken [] (by simp) outside _ within

end Arrival

section Steps

/-- What a character opens outside brackets, with the one behind it. -/
inductive Opens : Char → Option Char → Scan Unit → Prop where
  | colon {next : Option Char} (gap : isGap next = true) : Opens ':' next value
  | single (next : Option Char) : Opens '\'' next (quotedScalar true)
  | double (next : Option Char) : Opens '"' next (quotedScalar false)
  | literal (next : Option Char) : Opens '|' next (blockScalar true)
  | plain {c : Char} {next : Option Char} (solid : IsSolid c)
      (unmarked : c ∉ "#,[]\x7b\x7d&*!|>'\"%@\x60".toList)
      (free : c = '?' ∨ c = ':' ∨ c = '-' → isGap next = false) : Opens c next plainScalar

/-- A step, where a token stands behind what is passed over. -/
theorem run_step (arrives : (toNextToken (s.rest.length + 1)).run.run s = (.ok (), t)) (near : Near t)
    (at_ : At t column (c :: text)) (left : t.indent ≤ column)
    (inside : column ≠ 0 ∨ c ≠ '-' ∧ c ≠ '.') (opens : Opens c text.head? scan)
    (done : scan.run.run t = (.ok (), u)) : step.run.run s = (.ok true, u) := by
  have indicator : atIndicator.run.run t = (.ok false, t) := by
    rcases inside with inside | ⟨dash, dot⟩
    · exact Takes.atIndicator inside t at_
    · exact Takes.atIndicator_of_ne dash dot t at_
  have next : (c :: text)[1]? = text.head? := by simp [List.head?_eq_getElem?]
  have left : t.indent ≤ t.mark.column := by simpa [at_.column] using left
  simp only [step, Action.run_bind, run_get, arrives, run_dropStaleKeys near, run_unroll left,
    at_.rest, at_.flat, List.head?_cons, next, ne_eq, not_true_eq_false]
  cases opens with
  | plain solid unmarked free =>
    simp only [String.reduceToList, List.mem_cons, List.not_mem_nil, not_or] at unmarked
    have starts : ((isGap (some c) = false ∧ isIndicator c = false) ∨
        c = '-' ∧ text.head?.any isBlank = false) ∨ (c = '?' ∨ c = ':') ∧ isGap text.head? = false := by
      by_cases question : c = '?' ∨ c = ':'
      · exact .inr ⟨question, free (question.elim .inl (.inr ∘ .inl))⟩
      · rw [not_or] at question
        by_cases dash : c = '-'
        · have gap := free (.inr (.inr dash))
          refine .inl (.inr ⟨dash, ?_⟩)
          cases following : text.head? with
          | none => rfl
          | some d =>
            simp only [following, isGap, Bool.or_eq_false_iff] at gap
            exact gap.1
        · refine .inl (.inl ⟨by simp [isGap, solid.1, solid.2], ?_⟩)
          simp [isIndicator, unmarked, question, dash]
    have dash : ¬(c = '-' ∧ isGap text.head? = true) := by
      rintro ⟨rfl, gap⟩
      simp [free] at gap
    have question : ¬(c = '?' ∧ isGap text.head? = true) := by
      rintro ⟨rfl, gap⟩
      simp [free] at gap
    have colon : ¬(c = ':' ∧ isGap text.head? = true) := by
      rintro ⟨rfl, gap⟩
      simp [free] at gap
    simp only [false_or, unmarked, dash, question, colon, and_false, false_and, if_false, Action.run_bind,
      indicator, Bool.false_eq_true]
    rw [if_pos (by simpa using starts), Action.run_bind, done]
    rfl
  | colon gap =>
    simp only [Action.run_bind, indicator, gap, done, Char.reduceEq, and_false, false_and, and_true,
      or_true, if_false, if_true, Bool.false_eq_true]
    rfl
  | _ =>
    simp only [Action.run_bind, indicator, done, Char.reduceEq, and_false, false_and, and_true,
      not_false_eq_true, if_false, if_true, Bool.false_eq_true]
    rfl

theorem run_steps (limit : Nat) (done : step.run.run s = (.ok true, t)) :
    (steps (limit + 1)).run.run s = (steps limit).run.run t := by
  rw [steps, Action.run_bind, done]
  rfl

end Steps

section Keys

/-- The scan is at the outermost level, with nothing that may be a key. `started` says whether a
mapping has been opened there. -/
structure Outermost (s : ScanState) (started : Bool) (kinds : List TokenKind) : Prop where
  keys : s.keys = [none]
  level : (s.indent, s.indents) = if started then (0, [-1]) else (-1, [])
  tokens : s.tokens.map Token.kind = kinds.reverse
  count : s.count = s.tokens.length

/-- The token that the first key puts in front of itself. -/
def opening (started : Bool) : List TokenKind := if started then [] else [.blockMappingStart]

variable {started : Bool}

theorem run_insertAt (position : Nat) (kind : TokenKind) (mark : Mark) (s : ScanState) :
    (insertAt position kind mark).run.run s = (.ok (), { s with
      tokens := s.tokens.take (s.count - position) ++ ⟨kind, mark, mark⟩ ::
        s.tokens.drop (s.count - position)
      count := s.count + 1 }) := rfl

theorem emits_symbol (kind : TokenKind) (solid : isBreak c = false) :
    Emits (symbol kind 1) column [c] rest kind id := by
  refine .here fun start _ => .bind_done (.skipMany [c] (by simpa using solid)) ?_
  exact .here fun stop _ => Emits.emit start stop

/-- A colon behind the only token that has come since a key may have started. -/
theorem run_value {possible : PossibleKey} {token : Token} {before : List Token}
    (at_ : At s column (':' :: text)) (keys : s.keys = [some possible]) (start : possible.mark.column = 0)
    (level : (s.indent, s.indents) = if started then (0, [-1]) else (-1, []))
    (tokens : s.tokens = token :: before) (count : s.count = before.length + 1)
    (position : possible.position = before.length) :
    ∃ t, value.run.run s = (.ok (), t) ∧ At t (column + 1) text ∧ t.keyAllowed = false ∧
      Outermost t true
        ((before.map Token.kind).reverse ++ opening started ++ [.key, token.kind, .value]) := by
  have one : before.length + 1 - before.length = 1 := by omega
  have two : before.length + 1 + 1 - before.length = 2 := by omega
  -- The place of the key comes to stand behind the token that opens the mapping, if there is one.
  let opened : List Token := (opening started).map fun kind => ⟨kind, possible.mark, possible.mark⟩
  let u : ScanState := { s with
    flowLevel := 0
    indent := 0
    indents := [-1]
    keyAllowed := false
    keys := [none]
    tokens := token :: ⟨.key, possible.mark, possible.mark⟩ :: (opened ++ before)
    count := before.length + 2 + opened.length }
  have within : At u column ([':'] ++ text) := ⟨at_.rest, at_.column, rfl, Int.le_refl 0⟩
  obtain ⟨first, last, emits⟩ := emits_symbol .value (by decide) u within
  have past := At.past within
  refine ⟨{ u.past [':'] with
    tokens := ⟨.value, first, last⟩ :: u.tokens
    count := u.count + 1 }, ?_, ⟨past.1, past.2, past.3, past.4⟩, rfl, rfl, rfl, ?_, ?_⟩
  · simp only [value, Action.run_bind, run_get, keys, run_insertAt, count, position, run_modify,
      tokens, run_allowKey, rollTo, start, at_.flat, one]
    cases started <;> obtain ⟨level, levels⟩ := Prod.mk.inj level
    · rw [level, levels, if_pos ⟨trivial, by decide⟩]
      simp only [Action.run_bind, run_set, run_insertAt, two]
      exact emits
    · rw [level, levels, if_neg (by simp)]
      exact emits
  · cases started <;> simp [u, opened, opening]
  · cases started <;> simp [u, opened, opening]

end Keys

end ModelForge.Yaml.Scan
