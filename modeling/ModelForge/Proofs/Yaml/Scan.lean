import ModelForge.Proofs.Action
import ModelForge.Yaml.Scan

/-! What a scan takes. Outside brackets and at the outermost level, where the characters that are
left are cut into a front and a rest, a scan that takes the front leaves the rest, and its mark has
moved on by the front. Scans that follow each other take fronts that follow each other. -/
namespace ModelForge.Yaml

/-- The place behind a character. A carriage return in front of a line feed is not told apart. -/
def Mark.past (mark : Mark) (c : Char) : Mark :=
  if Scan.isBreak c then ⟨mark.index + c.utf8Size, mark.line + 1, 0⟩
  else ⟨mark.index + c.utf8Size, mark.line, mark.column + 1⟩

/-- The column behind some characters. -/
def columnPast (column : Nat) (front : List Char) : Nat :=
  front.foldl (fun column c => if Scan.isBreak c then 0 else column + 1) column

section Columns

variable {column : Nat} {front more : List Char} {c : Char}

@[simp] theorem columnPast_nil (column : Nat) : columnPast column [] = column := rfl

theorem columnPast_append (column : Nat) (front more : List Char) :
    columnPast column (front ++ more) = columnPast (columnPast column front) more :=
  List.foldl_append

theorem column_foldl_past (mark : Mark) (front : List Char) :
    (front.foldl Mark.past mark).column = columnPast mark.column front := by
  induction front generalizing mark with
  | nil => rfl
  | cons c front ih =>
    rw [List.foldl_cons, ih]
    unfold Mark.past columnPast
    split <;> simp [*]

theorem columnPast_of_solid (solid : ∀ c ∈ front, Scan.isBreak c = false) :
    columnPast column front = column + front.length := by
  induction front generalizing column with
  | nil => rfl
  | cons c front ih =>
    have one := solid c List.mem_cons_self
    have others := @ih (column + 1) fun d member => solid d (List.mem_cons_of_mem _ member)
    simp only [columnPast, List.foldl_cons, one, Bool.false_eq_true, if_false] at others ⊢
    rw [others, List.length_cons]
    omega

/-- The column does not come back to the start of a line within one. -/
theorem columnPast_ne_zero (inside : column ≠ 0) (solid : ∀ c ∈ front, Scan.isBreak c = false) :
    columnPast column front ≠ 0 := by
  rw [columnPast_of_solid solid]
  omega

theorem foldl_past_of_solid (mark : Mark) (solid : ∀ c ∈ front, Scan.isBreak c = false) :
    front.foldl Mark.past mark =
      ⟨mark.index + (String.ofList front).utf8ByteSize, mark.line, mark.column + front.length⟩ := by
  induction front generalizing mark with
  | nil => simp
  | cons c front ih =>
    have one := solid c List.mem_cons_self
    rw [List.foldl_cons, ih _ fun d member => solid d (List.mem_cons_of_mem _ member)]
    simp only [Mark.past, one, Bool.false_eq_true, if_false, List.length_cons,
      String.ofList_cons, String.utf8ByteSize_append, String.utf8ByteSize_singleton]
    simp only [Mark.mk.injEq, true_and]
    omega

end Columns

namespace ScanState

/-- The state once some characters have been taken. -/
def past (s : ScanState) (front : List Char) : ScanState :=
  { s with rest := s.rest.drop front.length, mark := front.foldl Mark.past s.mark }

@[simp] theorem past_nil (s : ScanState) : s.past [] = s := rfl

@[simp] theorem past_tokens (s : ScanState) (front : List Char) : (s.past front).tokens = s.tokens :=
  rfl

@[simp] theorem past_count (s : ScanState) (front : List Char) : (s.past front).count = s.count := rfl

theorem past_past (s : ScanState) (front more : List Char) :
    (s.past front).past more = s.past (front ++ more) := by
  simp [past, List.drop_drop]

end ScanState

namespace Scan

variable {α β : Type} {scan : Scan α} {column : Nat} {front rest : List Char} {value : α}
  {c : Char} {s : ScanState}

/-- The scan stands before some characters in a column, outside brackets and at the outermost
level. -/
structure At (s : ScanState) (column : Nat) (text : List Char) : Prop where
  rest : s.rest = text
  column : s.mark.column = column
  flat : s.flowLevel = 0
  outermost : s.indent ≤ 0

theorem At.past (at_ : At s column (front ++ rest)) :
    At (s.past front) (columnPast column front) rest where
  rest := by simp [ScanState.past, at_.rest]
  column := by simp [ScanState.past, column_foldl_past, at_.column]
  flat := at_.flat
  outermost := at_.outermost

/-- What holds of the outcome of the scan where `front` is taken off what is left. It is told of the
state behind `front`. -/
def Leads (scan : Scan α) (column : Nat) (front rest : List Char)
    (Post : ScanState → Except Malformed α × ScanState → Prop) : Prop :=
  ∀ s, At s column (front ++ rest) → Post (s.past front) (scan.run.run s)

/-- The scan takes `front` off what is left, leaves `rest`, and comes to a value. -/
def Takes (scan : Scan α) (column : Nat) (front rest : List Char) (value : α) : Prop :=
  Leads scan column front rest fun past outcome => outcome = (.ok value, past)

namespace Leads

variable {next : α → Scan β} {Post : ScanState → Except Malformed β × ScanState → Prop}

theorem bind {more : List Char} (first : Takes scan column front (more ++ rest) value)
    (then_ : Leads (next value) (columnPast column front) more rest Post) :
    Leads (scan >>= next) column (front ++ more) rest Post := by
  intro s at_
  rw [List.append_assoc] at at_
  rw [Action.run_bind, first s at_, ← ScanState.past_past]
  exact then_ _ at_.past

/-- A scan that only looks at what comes next, and one that takes it. -/
theorem bind_looking (first : Takes scan column [] (front ++ rest) value)
    (then_ : Leads (next value) column front rest Post) :
    Leads (scan >>= next) column front rest Post :=
  bind first then_

/-- What follows takes nothing. -/
theorem bind_done (first : Takes scan column front rest value)
    (then_ : Leads (next value) (columnPast column front) [] rest Post) :
    Leads (scan >>= next) column front rest Post := by
  have whole : Leads (scan >>= next) column (front ++ []) rest Post := bind first then_
  rwa [List.append_nil] at whole

/-- The first scan takes one character. -/
theorem bind_char (first : Takes scan column [c] (front ++ rest) value)
    (then_ : Leads (next value) (columnPast column [c]) front rest Post) :
    Leads (scan >>= next) column (c :: front) rest Post := by
  have whole : Leads (scan >>= next) column ([c] ++ front) rest Post := bind first then_
  exact whole

/-- The state is no reason to take anything. -/
theorem get {next : ScanState → Scan β}
    (then_ : ∀ s, At s column (front ++ rest) → Leads (next s) column front rest Post) :
    Leads (MonadState.get >>= next) column front rest Post := by
  intro s at_
  rw [Action.run_bind]
  exact then_ s at_ s at_

theorem here {next : Mark → Scan β}
    (then_ : ∀ mark : Mark, mark.column = column → Leads (next mark) column front rest Post) :
    Leads (Scan.here >>= next) column front rest Post := by
  intro s at_
  rw [Action.run_bind]
  exact then_ s.mark at_.column s at_

end Leads

theorem run_skip (text : s.rest = c :: rest) : skip.run.run s =
    (.ok (), { s with rest, mark := ⟨s.mark.index + c.utf8Size, s.mark.line, s.mark.column + 1⟩ }) := by
  obtain ⟨_, _, _, _, _, _, _, _, _⟩ := s
  obtain rfl := text
  rfl

namespace Takes

variable {next : α → Scan β} {result : β}

theorem pure (column : Nat) (rest : List Char) (value : α) :
    Takes (Pure.pure value) column [] rest value :=
  fun _ _ => rfl

theorem bind {more : List Char} (first : Takes scan column front (more ++ rest) value)
    (then_ : Takes (next value) (columnPast column front) more rest result) :
    Takes (scan >>= next) column (front ++ more) rest result :=
  Leads.bind first then_

theorem bind_looking (first : Takes scan column [] (front ++ rest) value)
    (then_ : Takes (next value) column front rest result) :
    Takes (scan >>= next) column front rest result :=
  Leads.bind_looking first then_

theorem bind_done (first : Takes scan column front rest value)
    (then_ : Takes (next value) (columnPast column front) [] rest result) :
    Takes (scan >>= next) column front rest result :=
  Leads.bind_done first then_

theorem bind_char (first : Takes scan column [c] (front ++ rest) value)
    (then_ : Takes (next value) (columnPast column [c]) front rest result) :
    Takes (scan >>= next) column (c :: front) rest result :=
  Leads.bind_char first then_

theorem get {next : ScanState → Scan β}
    (then_ : ∀ s, At s column (front ++ rest) → Takes (next s) column front rest result) :
    Takes (MonadState.get >>= next) column front rest result :=
  Leads.get then_

theorem here {next : Mark → Scan β}
    (then_ : ∀ mark : Mark, mark.column = column → Takes (next mark) column front rest result) :
    Takes (Scan.here >>= next) column front rest result :=
  Leads.here then_

theorem peek (ahead : Nat) : Takes (peek ahead) column [] rest rest[ahead]? :=
  fun s at_ => congrArg (fun text : List Char => (Except.ok text[ahead]?, s)) at_.rest

theorem inFlow : Takes inFlow column [] rest false := by
  intro s at_
  have flat : decide (s.flowLevel ≠ 0) = false := by simp [at_.flat]
  exact congrArg (fun flow => (Except.ok flow, s)) flat

theorem skip (solid : isBreak c = false) : Takes skip column [c] rest () := by
  intro s at_
  have text : s.rest = c :: rest := at_.rest
  rw [run_skip text]
  simp [text, ScanState.past, Mark.past, solid]

theorem skipMany (front : List Char) (solid : ∀ c ∈ front, isBreak c = false) :
    Takes (skipMany front.length) column front rest () := by
  induction front generalizing column with
  | nil => exact pure column rest ()
  | cons c front ih =>
    refine bind_char (skip (solid c List.mem_cons_self)) ?_
    exact ih fun d member => solid d (List.mem_cons_of_mem _ member)

/-- A stretch of one kind ends at the first character of another. -/
theorem takeWhile {kind : Char → Bool} (inside : ∀ c ∈ front, kind c = true)
    (solid : ∀ c ∈ front, isBreak c = false) (outside : ∀ c ∈ rest.head?, kind c = false) :
    Takes (takeWhile kind) column front rest front := by
  have ends : rest.takeWhile kind = [] ∧ rest.dropWhile kind = rest := by
    cases rest with
    | nil => exact ⟨rfl, rfl⟩
    | cons c more => simp [outside c rfl]
  intro s at_
  have taken : (Scan.takeWhile kind).run.run s = (.ok (s.rest.takeWhile kind), { s with
      rest := s.rest.dropWhile kind
      mark := ⟨s.mark.index + (String.ofList (s.rest.takeWhile kind)).utf8ByteSize, s.mark.line,
        s.mark.column + (s.rest.takeWhile kind).length⟩ }) := rfl
  rw [taken, at_.rest, List.takeWhile_append_of_pos inside, List.dropWhile_append_of_pos inside,
    ends.1, ends.2, List.append_nil, ScanState.past, foldl_past_of_solid _ solid, at_.rest,
    List.drop_left]

/-- A line end other than a carriage return. -/
theorem lineEnd (written : c = '\n' ∨ c = '\u2028' ∨ c = '\u2029') :
    Takes lineEnd column [c] rest [c] := by
  intro s at_
  obtain ⟨text, mark, _, _, _, _, _, _, _⟩ := s
  obtain rfl : text = c :: rest := at_.rest
  rcases written with rfl | rfl | rfl <;> rfl

end Takes

/-- The scan takes `front` off what is left, leaves `rest`, and makes a token of it. `allowed` says
from whether a key was allowed whether one is allowed behind it. -/
def Emits (scan : Scan Unit) (column : Nat) (front rest : List Char) (kind : TokenKind)
    (allowed : Bool → Bool) : Prop :=
  Leads scan column front rest fun past outcome => ∃ start stop, outcome = (.ok (), { past with
    keyAllowed := allowed past.keyAllowed
    tokens := ⟨kind, start, stop⟩ :: past.tokens
    count := past.count + 1 })

theorem Emits.emit {kind : TokenKind} (start stop : Mark) :
    Emits (emit kind start stop) column [] rest kind id :=
  fun _ _ => ⟨start, stop, rfl⟩

/-- The scan makes a token of `front`, where a colon came before it in an outermost mapping. -/
def Yields (scan : Scan Unit) (column : Nat) (front rest : List Char) (kind : TokenKind)
    (allowed : Bool) : Prop :=
  ∀ s, At s column (front ++ rest) → s.indent = 0 → s.keyAllowed = false → s.keys = [none] →
    ∃ start stop, scan.run.run s = (.ok (), { s.past front with
      keyAllowed := allowed
      tokens := ⟨kind, start, stop⟩ :: s.tokens
      count := s.count + 1 })

section Steps

theorem run_get (s : ScanState) : (MonadState.get : Scan ScanState).run.run s = (.ok s, s) := rfl

theorem run_modify (f : ScanState → ScanState) (s : ScanState) :
    (modify f : Scan Unit).run.run s = (.ok (), f s) := rfl

theorem run_set (s t : ScanState) : (set s : Scan Unit).run.run t = (.ok (), s) := rfl

theorem run_allowKey (allowed : Bool) (s : ScanState) :
    (allowKey allowed).run.run s = (.ok (), { s with keyAllowed := allowed }) := rfl

theorem run_emit (kind : TokenKind) (start stop : Mark) (s : ScanState) :
    (emit kind start stop).run.run s =
      (.ok (), { s with tokens := ⟨kind, start, stop⟩ :: s.tokens, count := s.count + 1 }) := rfl

end Steps

section Behind

variable {body : Scan Unit} {kind : TokenKind} {allowed : Bool → Bool}

/-- Where no key is allowed none is remembered. -/
theorem run_saveKey_unallowed (unallowed : s.keyAllowed = false) :
    saveKey.run.run s = (.ok (), s) := by
  simp only [saveKey, Action.run_bind, run_get, unallowed, Bool.false_eq_true, if_false]
  rfl

/-- Where no key is remembered none is forgotten. -/
theorem run_dropKey_none (keys : s.keys = [none]) : dropKey.run.run s = (.ok (), s) := by
  simp only [dropKey, Action.run_bind, run_get, keys]
  rfl

/-- A scalar in a line is no key behind a colon. -/
theorem Yields.inline (emits : Emits body column front rest kind allowed) :
    Yields (saveKey >>= fun _ => allowKey false >>= fun _ => body) column front rest kind
      (allowed false) := by
  intro s at_ _ unallowed _
  obtain ⟨start, stop, runs⟩ := emits { s with keyAllowed := false } ⟨at_.1, at_.2, at_.3, at_.4⟩
  refine ⟨start, stop, ?_⟩
  rw [Action.run_bind, run_saveKey_unallowed unallowed]
  exact runs

/-- Behind a scalar of whole lines a key is allowed. -/
theorem Yields.block (emits : Emits body column front rest kind allowed) :
    Yields (dropKey >>= fun _ => allowKey true >>= fun _ => body) column front rest kind
      (allowed true) := by
  intro s at_ _ _ keys
  obtain ⟨start, stop, runs⟩ := emits { s with keyAllowed := true } ⟨at_.1, at_.2, at_.3, at_.4⟩
  refine ⟨start, stop, ?_⟩
  rw [Action.run_bind, run_dropKey_none keys]
  exact runs

end Behind

end Scan

end ModelForge.Yaml
