import ModelForge.Text.Reader

/-! Readers at a text that is cut into a front and a rest. What a reader does there is said by one
equation, `reader (front ++ rest) = some (value, rest)`, and readers that follow each other, that
stand beside each other and that are repeated are taken apart at such equations. -/
namespace ModelForge.Text.Reader

variable {α β : Type} {reader : Reader α} {s rest last : List Char} {value : α}

section Sequence

theorem bind_some {next : α → Reader β} (read : reader s = some (value, rest)) :
    (reader >>= next) s = next value rest := by
  simp [bind, StateT.bind, read]

theorem bind_none {next : α → Reader β} (read : reader s = none) : (reader >>= next) s = none := by
  simp [bind, StateT.bind, read]

theorem map_some {f : α → β} (read : reader s = some (value, rest)) :
    (f <$> reader) s = some (f value, rest) := by
  simp [Functor.map, StateT.map, read]

theorem map_none {f : α → β} (read : reader s = none) : (f <$> reader) s = none := by
  simp [Functor.map, StateT.map, read]

theorem orElse_some {other : Unit → Reader α} (read : reader s = some (value, rest)) :
    (HOrElse.hOrElse reader other) s = some (value, rest) := by
  simp [HOrElse.hOrElse, OrElse.orElse, Alternative.orElse, StateT.orElse, read]

theorem orElse_none {other : Unit → Reader α} (read : reader s = none) :
    (HOrElse.hOrElse reader other) s = other () s := by
  simp [HOrElse.hOrElse, OrElse.orElse, Alternative.orElse, StateT.orElse, read]

theorem optional_none (read : reader s = none) : (optional reader) s = some (none, s) := by
  rw [optional, orElse_none (map_none read)]
  rfl

theorem optional_some (read : reader s = some (value, rest)) :
    (optional reader) s = some (some value, rest) := by
  rw [optional, orElse_some (map_some read)]

end Sequence

section Characters

variable {kind : Char → Bool}

/-- A stretch of one kind ends at the first character of another. -/
theorem spanned_append {front : List Char} (inside : ∀ c ∈ front, kind c = true)
    (outside : ∀ c ∈ rest.head?, kind c = false) :
    spanned kind (front ++ rest) = some (front, rest) := by
  have ends : rest.takeWhile kind = [] ∧ rest.dropWhile kind = rest := by
    cases rest with
    | nil => exact ⟨rfl, rfl⟩
    | cons c more =>
      have other := outside c rfl
      simp [other]
  rw [spanned, List.takeWhile_append_of_pos inside, List.dropWhile_append_of_pos inside, ends.1,
    ends.2, List.append_nil]

theorem some'_append {front : List Char} (nonempty : front ≠ [])
    (inside : ∀ c ∈ front, kind c = true) (outside : ∀ c ∈ rest.head?, kind c = false) :
    some' kind (front ++ rest) = some (front, rest) := by
  have both := spanned_append inside outside
  simp only [spanned, Option.some.injEq, Prod.mk.injEq] at both
  unfold some'
  rw [both.1, both.2]
  cases front with
  | nil => exact absurd rfl nonempty
  | cons => rfl

theorem exactly_append (expected : String) (rest : List Char) :
    exactly expected (expected.toList ++ rest) = some ((), rest) := by
  simp [exactly]

/-- A text that begins otherwise. -/
theorem exactly_none {expected : String} {c : Char} (more : List Char)
    (other : expected.toList.head? ≠ some c) (nonempty : expected.toList ≠ []) :
    exactly expected (c :: more) = none := by
  obtain ⟨d, tail, chars⟩ := List.exists_cons_of_ne_nil nonempty
  have differ : d ≠ c := by
    rintro rfl
    exact other (by rw [chars]; rfl)
  simp [exactly, chars, differ]

theorem raw_append {front : List Char} (read : reader (front ++ rest) = some (value, rest)) :
    raw reader (front ++ rest) = some (front, rest) := by
  simp [raw, read]

theorem raw_none (read : reader s = none) : raw reader s = none := by
  simp [raw, read]

theorem one_none {c : Char} (more : List Char) (other : kind c = false) :
    one kind (c :: more) = none := by
  simp [one, other]

end Characters

section Repetition

/-- More rounds than are needed do no harm. -/
theorem atMost_more {items : List α} {few many : Nat} (enough : few ≤ many)
    (read : atMost reader few s = some (items, last)) (stops : reader last = none) :
    atMost reader many s = some (items, last) := by
  induction few generalizing s items many with
  | zero =>
    obtain ⟨rfl, rfl⟩ : items = [] ∧ s = last := by
      have ended : some (([] : List α), s) = some (items, last) := read
      simpa [eq_comm] using ended
    cases many with
    | zero => rfl
    | succ many => simp [atMost, stops]
  | succ few ih =>
    obtain ⟨many, rfl⟩ : ∃ more, many = more + 1 := ⟨many - 1, by omega⟩
    rw [atMost] at read ⊢
    cases first : reader s with
    | none => simpa [first] using read
    | some found =>
      obtain ⟨item, rest⟩ := found
      simp only [first] at read ⊢
      cases further : atMost reader few rest with
      | none => simp [further] at read
      | some result =>
        obtain ⟨others, ending⟩ := result
        rw [further] at read
        obtain ⟨rfl, rfl⟩ : item :: others = items ∧ ending = last := by simpa using read
        rw [ih (by omega) further]
        rfl

theorem many_nil (stops : reader s = none) : many reader s = some ([], s) := by
  unfold many
  cases s with
  | nil => rfl
  | cons c more => simp [atMost, stops]

/-- One round, and then the others. -/
theorem many_cons {items : List α} (read : reader s = some (value, rest))
    (shorter : rest.length < s.length) (more : many reader rest = some (items, last))
    (stops : reader last = none) : many reader s = some (value :: items, last) := by
  obtain ⟨rounds, length⟩ : ∃ rounds, s.length = rounds + 1 := ⟨s.length - 1, by omega⟩
  have further := atMost_more (by omega : rest.length ≤ rounds) more stops
  unfold many
  rw [length, atMost]
  simp [read, further]

end Repetition

end ModelForge.Text.Reader
