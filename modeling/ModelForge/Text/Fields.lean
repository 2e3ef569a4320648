/-! Cutting a text at a separator. `fields` keeps every stretch between two separators, empty
ones too, so putting the separator back between the fields gives the text again; `cut?` stops
at the first separator. -/
namespace ModelForge.Text

/-- The stretches between separators. There is always at least one. -/
def fields (separator : Char) : List Char → List (List Char)
  | [] => [[]]
  | c :: rest =>
    if c = separator then [] :: fields separator rest
    else match fields separator rest with
      | [] => [[c]]
      | first :: more => (c :: first) :: more

/-- The text before the first separator and the text after it. -/
def cut? (separator : Char) : List Char → Option (List Char × List Char)
  | [] => none
  | c :: rest =>
    if c = separator then some ([], rest)
    else (cut? separator rest).map fun (before, after) => (c :: before, after)

/-- The fields with the separator put back between them. -/
def rejoin (separator : Char) : List (List Char) → List Char
  | [] => []
  | [only] => only
  | first :: more => first ++ separator :: rejoin separator more

theorem fields_ne_nil (separator : Char) (s : List Char) : fields separator s ≠ [] := by
  induction s with
  | nil => simp [fields]
  | cons c rest ih =>
    unfold fields
    split
    · simp
    · split <;> simp

theorem rejoin_fields (separator : Char) (s : List Char) :
    rejoin separator (fields separator s) = s := by
  induction s with
  | nil => rfl
  | cons c rest ih =>
    by_cases h : c = separator
    · obtain ⟨first, more, shape⟩ := List.exists_cons_of_ne_nil (fields_ne_nil separator rest)
      rw [shape] at ih
      simp [fields, h, shape, rejoin, ih]
    · cases shape : fields separator rest with
      | nil => exact absurd shape (fields_ne_nil separator rest)
      | cons first more =>
        rw [shape] at ih
        simp only [fields, h, shape, if_false]
        cases more <;> simp_all [rejoin]

theorem separator_notMem_fields (separator : Char) (s : List Char) :
    ∀ field ∈ fields separator s, separator ∉ field := by
  induction s with
  | nil => simp [fields]
  | cons c rest ih =>
    by_cases h : c = separator
    · simpa [fields, h] using ih
    · cases shape : fields separator rest with
      | nil => exact absurd shape (fields_ne_nil separator rest)
      | cons first more =>
        rw [shape] at ih
        simp only [fields, h, shape, if_false]
        intro field member
        rcases List.mem_cons.1 member with rfl | member
        · have := ih first (by simp)
          simp [this, Ne.symm h]
        · exact ih field (by simp [member])

theorem cut?_eq_some {separator : Char} {s before after : List Char}
    (h : cut? separator s = some (before, after)) :
    s = before ++ separator :: after ∧ separator ∉ before := by
  induction s generalizing before with
  | nil => simp [cut?] at h
  | cons c rest ih =>
    unfold cut? at h
    split at h
    · simp_all
    · obtain ⟨⟨b, a⟩, found, eq⟩ := Option.map_eq_some_iff.1 h
      obtain ⟨rfl, rfl⟩ := Prod.mk.inj eq
      obtain ⟨rfl, absent⟩ := ih found
      simp_all [Ne.symm]

/-- A text is cut where it was put together, if the part before holds no separator. -/
theorem cut?_append {separator : Char} {before : List Char} (after : List Char)
    (absent : separator ∉ before) :
    cut? separator (before ++ separator :: after) = some (before, after) := by
  induction before with
  | nil => simp [cut?]
  | cons c rest ih =>
    rw [List.mem_cons, not_or] at absent
    simp [cut?, Ne.symm absent.1, ih absent.2]

theorem cut?_eq_none_iff {separator : Char} {s : List Char} :
    cut? separator s = none ↔ separator ∉ s := by
  induction s with
  | nil => simp [cut?]
  | cons c rest ih =>
    unfold cut?
    split
    · simp_all
    · rw [Option.map_eq_none_iff, ih]
      simp_all [eq_comm]

end ModelForge.Text
