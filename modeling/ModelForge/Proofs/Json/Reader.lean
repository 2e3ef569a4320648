import ModelForge.Json.Record
import ModelForge.Proofs.Action

/-! What a reader takes. Where the bytes that are left are cut into a front and a rest, a reader that
takes the front leaves the rest, and its cursor counts what it has taken. Readers that follow each
other take fronts that follow each other. -/
namespace ModelForge.Json.Reader

variable {α β : Type} {reader : Reader α} {front rest : List UInt8} {b : UInt8} {value : α}

/-- The reader takes `front` off what is left, leaves `rest`, and comes to a value. -/
def Takes (reader : Reader α) (front rest : List UInt8) (value : α) : Prop :=
  ∀ taken, reader.run.run ⟨taken, front ++ rest⟩ = (.ok value, ⟨taken + front.length, rest⟩)

namespace Takes

theorem pure (rest : List UInt8) (value : α) : Takes (Pure.pure value) [] rest value :=
  fun _ => rfl

theorem bind {next : α → Reader β} {more : List UInt8} {result : β}
    (first : Takes reader front (more ++ rest) value) (then_ : Takes (next value) more rest result) :
    Takes (reader >>= next) (front ++ more) rest result := by
  intro taken
  rw [Action.run_bind, List.append_assoc, first taken]
  simpa [Nat.add_assoc] using then_ (taken + front.length)

/-- A reader that only looks at what comes next, and one that takes it. -/
theorem bind_looking {next : α → Reader β} {result : β} (first : Takes reader [] (front ++ rest) value)
    (then_ : Takes (next value) front rest result) : Takes (reader >>= next) front rest result :=
  first.bind then_

/-- What follows takes nothing. -/
theorem bind_done {next : α → Reader β} {result : β} (first : Takes reader front rest value)
    (then_ : Takes (next value) [] rest result) : Takes (reader >>= next) front rest result := by
  have whole : Takes (reader >>= next) (front ++ []) rest result := first.bind then_
  rwa [List.append_nil] at whole

/-- The first reader takes one byte. -/
theorem bind_byte {next : α → Reader β} {result : β} (first : Takes reader [b] (front ++ rest) value)
    (then_ : Takes (next value) front rest result) :
    Takes (reader >>= next) (b :: front) rest result := by
  have whole : Takes (reader >>= next) ([b] ++ front) rest result := first.bind then_
  exact whole

theorem map {f : α → β} (takes : Takes reader front rest value) :
    Takes (f <$> reader) front rest (f value) := by
  intro taken
  rw [ExceptT.run_map, StateT.run_map, takes taken]
  rfl

/-- How many bytes are left is no reason to take any. -/
theorem get {next : Cursor → Reader α}
    (then_ : ∀ taken, Takes (next ⟨taken, front ++ rest⟩) front rest value) :
    Takes (MonadState.get >>= next) front rest value := by
  intro taken
  rw [Action.run_bind]
  exact then_ taken taken

theorem tryCatch {handler : Mishap → Reader α} (takes : Takes reader front rest value) :
    Takes (tryCatchThe Mishap reader handler) front rest value := by
  intro taken
  simp only [tryCatchThe, MonadExceptOf.tryCatch, ExceptT.tryCatch, ExceptT.run_mk]
  rw [StateT.run_bind]
  erw [takes taken]
  rfl

theorem placed (takes : Takes reader front rest value) : Takes (placed reader) front rest value :=
  takes.tryCatch

theorem peek : Takes peek [] rest rest.head? := fun _ => rfl

theorem skip : Takes skip [b] rest () := fun _ => rfl

/-- A stretch of one kind ends at the first byte of another. -/
theorem takeWhile {kind : UInt8 → Bool} (inside : ∀ b ∈ front, kind b = true)
    (outside : ∀ b ∈ rest.head?, kind b = false) : Takes (takeWhile kind) front rest front := by
  have ends : rest.takeWhile kind = [] ∧ rest.dropWhile kind = rest := by
    cases rest with
    | nil => exact ⟨rfl, rfl⟩
    | cons b more => simp [outside b rfl]
  intro taken
  change (Except.ok ((front ++ rest).takeWhile kind), Cursor.mk (taken +
    ((front ++ rest).takeWhile kind).length) ((front ++ rest).dropWhile kind)) = _
  rw [List.takeWhile_append_of_pos inside, List.dropWhile_append_of_pos inside, ends.1, ends.2,
    List.append_nil]

/-- Where no blank comes next, there is none to pass over. -/
theorem peekSolid (solid : isSpace b = false) : Takes peekSolid [] (b :: rest) (some b) := by
  have none : Takes (Reader.takeWhile isSpace) [] (b :: rest) [] :=
    .takeWhile (by simp) (by simpa using solid)
  exact none.bind_looking peek

theorem valueStart (solid : isSpace b = false) : Takes valueStart [] (b :: rest) b :=
  bind_looking (peekSolid solid) (pure _ b)

/-- A closing bracket behind what it closes. -/
theorem closing {close : Reader Unit} {more : List UInt8}
    (inside : Takes reader front (more ++ rest) value) (closes : Takes close more rest ()) :
    Takes (closing reader close) (front ++ more) rest value :=
  bind (tryCatch inside.map) (closes.bind_done (pure rest value))

end Takes

/-- A document that a reader takes, with blanks behind. -/
theorem readDocument_of_takes_blank {blank : List UInt8} (takes : Takes reader front blank value)
    (own : ∀ b ∈ blank, isSpace b = true) : readDocument reader (front ++ blank) = .ok value := by
  have read : (placed reader).run.run ⟨0, front ++ blank⟩ = (.ok value, ⟨front.length, blank⟩) := by
    simpa using takes.placed 0
  have blanks : Takes peekSolid blank [] none :=
    (Takes.takeWhile own (by simp)).bind_done (@Takes.peek [])
  have ended := blanks front.length
  rw [List.append_nil] at ended
  simp only [readDocument, Action.run_bind, read, ended, Action.run_pure]

/-- A document that a reader takes whole. -/
theorem readDocument_of_takes (takes : Takes reader front [] value) :
    readDocument reader front = .ok value := by
  simpa using readDocument_of_takes_blank takes (by simp)

end ModelForge.Json.Reader
