import ModelForge.Model.Basic

/-! What makes a model valid, and what one that is not is refused for. The name of the model comes
before its version and both before its modules. Of these the first that is at fault decides: it
lacks a part of its identity, or it has the identity of a module before it. -/
namespace ModelForge

/-- The name or the version of a module is missing. -/
def SchemaModule.Incomplete (m : SchemaModule) : Prop := m.name = "" ∨ m.version = ""

instance (m : SchemaModule) : Decidable m.Incomplete := inferInstanceAs (Decidable (_ ∨ _))

theorem SchemaModule.incomplete_iff {m : SchemaModule} :
    m.Incomplete ↔ m.name.isEmpty ∨ m.version.isEmpty := by
  simp [Incomplete]

namespace Model

/-- The module at a position lacks a part of its identity or repeats that of an earlier one. -/
def Faulty (modules : List SchemaModule) (index : Nat) : Prop :=
  ∃ m, modules[index]? = some m ∧
    (m.Incomplete ∨ ∃ earlier ∈ modules.take index, earlier.identity = m.identity)

/-- The module at a position is the first that is at fault. -/
structure FirstFault (modules : List SchemaModule) (index : Nat) (m : SchemaModule) : Prop where
  place : modules[index]? = some m
  faulty : Faulty modules index
  first : ∀ earlier < index, ¬Faulty modules earlier

structure WellFormed (model : Model) : Prop where
  named : model.name ≠ ""
  versioned : model.version ≠ ""
  complete : ∀ m ∈ model.modules, m.name ≠ "" ∧ m.version ≠ ""
  distinct : model.modules.Pairwise fun a b => a.identity ≠ b.identity

/-- What is said of a module that is at fault. -/
def blame (name : String) (index : Nat) (m : SchemaModule) : DescriptorError :=
  if m.Incomplete then .emptyModuleField name index else .duplicateModule name m.name m.version

/-- What a model is refused for. Each case is looked for when those before it do not hold. -/
inductive Violation (model : Model) : DescriptorError → Prop where
  | unnamed (empty : model.name = "") : Violation model .emptyName
  | unversioned (named : model.name ≠ "") (empty : model.version = "") :
      Violation model (.emptyVersion model.name)
  | faulty {index : Nat} {m : SchemaModule} (named : model.name ≠ "")
      (versioned : model.version ≠ "") (first : FirstFault model.modules index m) :
      Violation model (blame model.name index m)

variable {model : Model} {modules : List SchemaModule}

theorem FirstFault.unique {index other : Nat} {m m' : SchemaModule}
    (first : FirstFault modules index m) (second : FirstFault modules other m') :
    index = other ∧ m = m' := by
  have same : index = other := by
    rcases Nat.lt_trichotomy index other with before | same | behind
    · exact absurd first.faulty (second.first index before)
    · exact same
    · exact absurd second.faulty (first.first other behind)
  subst same
  exact ⟨rfl, Option.some.inj (first.place.symm.trans second.place)⟩

/-- The module behind some others is at fault just when it is incomplete or its identity is among
theirs. -/
theorem faulty_append_cons (before : List SchemaModule) (m : SchemaModule)
    (rest : List SchemaModule) :
    Faulty (before ++ m :: rest) before.length ↔
      m.Incomplete ∨ ∃ earlier ∈ before, earlier.identity = m.identity := by
  simp [Faulty]

theorem not_faulty_iff : (∀ index, ¬Faulty modules index) ↔
    (∀ m ∈ modules, m.name ≠ "" ∧ m.version ≠ "") ∧
      modules.Pairwise fun a b => a.identity ≠ b.identity := by
  rw [List.pairwise_iff_getElem]
  constructor
  · intro clean
    constructor
    · intro m member
      obtain ⟨index, place⟩ := List.mem_iff_getElem?.1 member
      have complete : ¬m.Incomplete := fun lacks => clean index ⟨m, place, .inl lacks⟩
      exact not_or.1 complete
    · intro i j inside inside' before same
      refine clean j ⟨modules[j], List.getElem?_eq_getElem inside', .inr ⟨modules[i], ?_, same⟩⟩
      exact List.mem_take_iff_getElem.2 ⟨i, by omega, rfl⟩
  · rintro ⟨complete, distinct⟩ index ⟨m, place, lacks | ⟨earlier, taken, same⟩⟩
    · have parts := complete m (List.mem_of_getElem? place)
      exact lacks.elim parts.1 parts.2
    · obtain ⟨i, bound, rfl⟩ := List.mem_take_iff_getElem.1 taken
      obtain ⟨inside, rfl⟩ := List.getElem?_eq_some_iff.1 place
      exact distinct i index (by omega) inside (by omega) same

/-- The walk over the modules. It stands behind `before`, whose identities are those it has seen and
none of which was at fault. -/
theorem validateModules_cases (name : String) (before rest : List SchemaModule)
    {seen : List Identity}
    (tracks : ∀ identity, identity ∈ seen ↔ ∃ m ∈ before, m.identity = identity)
    (clean : ∀ index < before.length, ¬Faulty (before ++ rest) index) :
    (validateModules name before.length seen rest = .ok () ∧
      ∀ index, ¬Faulty (before ++ rest) index) ∨
    ∃ index m, FirstFault (before ++ rest) index m ∧
      validateModules name before.length seen rest = .error (blame name index m) := by
  induction rest generalizing before seen with
  | nil =>
    refine .inl ⟨rfl, fun index fault => ?_⟩
    obtain ⟨m, place, -⟩ := id fault
    have bound := (List.getElem?_eq_some_iff.1 place).1
    exact clean index (by simpa using bound) fault
  | cons m rest ih =>
    have next := faulty_append_cons before m rest
    have place : (before ++ m :: rest)[before.length]? = some m := by simp
    rw [← tracks] at next
    rw [validateModules]
    by_cases lacks : m.Incomplete
    · refine .inr ⟨before.length, m, ⟨place, next.2 (.inl lacks), clean⟩, ?_⟩
      rw [if_pos (SchemaModule.incomplete_iff.1 lacks), blame, if_pos lacks]
    rw [if_neg fun bare => lacks (SchemaModule.incomplete_iff.2 bare)]
    by_cases known : m.identity ∈ seen
    · refine .inr ⟨before.length, m, ⟨place, next.2 (.inr known), clean⟩, ?_⟩
      rw [if_pos known, blame, if_neg lacks]
    -- The module is in order, so it joins those behind which the walk stands.
    rw [if_neg known]
    have length : before.length + 1 = (before ++ [m]).length := by simp
    have shape : before ++ m :: rest = (before ++ [m]) ++ rest := by simp
    rw [length, shape]
    refine ih (before ++ [m]) (fun identity => ?_) fun index bound => ?_
    · rw [List.mem_cons, tracks, or_comm]
      simp only [List.mem_append, List.mem_singleton, or_and_right, exists_or, exists_eq_left,
        eq_comm (a := identity)]
    · rw [← shape]
      rcases Nat.lt_succ_iff_lt_or_eq.1 (length ▸ bound) with earlier | rfl
      · exact clean index earlier
      · exact fun fault => (next.1 fault).elim lacks known

theorem validate_of_identified (named : model.name ≠ "") (versioned : model.version ≠ "") :
    model.validate = validateModules model.name 0 [] model.modules := by
  rw [validate, if_neg (by simpa using named), if_neg (by simpa using versioned)]

theorem validate_cases (model : Model) : (model.validate = .ok () ∧ model.WellFormed) ∨
    ∃ error, model.validate = .error error ∧ model.Violation error := by
  by_cases named : model.name = ""
  · exact .inr ⟨_, by simp [validate, named], .unnamed named⟩
  by_cases versioned : model.version = ""
  · exact .inr ⟨_, by simp [validate, named, versioned], .unversioned named versioned⟩
  rw [validate_of_identified named versioned]
  have unseen (identity : Identity) : identity ∈ ([] : List Identity) ↔
      ∃ m ∈ ([] : List SchemaModule), m.identity = identity := by simp
  rcases validateModules_cases model.name [] model.modules unseen (by simp) with
    ⟨accepted, clean⟩ | ⟨index, m, first, refused⟩
  · obtain ⟨complete, distinct⟩ := not_faulty_iff.1 clean
    exact .inl ⟨accepted, ⟨named, versioned, complete, distinct⟩⟩
  · exact .inr ⟨_, refused, .faulty named versioned first⟩

/-- Only what is not well formed can be refused, and there is only one thing to refuse it for. -/
theorem Violation.not_wellFormed {error : DescriptorError} (violation : model.Violation error) :
    ¬model.WellFormed := by
  intro wellFormed
  have clean := not_faulty_iff.2 ⟨wellFormed.complete, wellFormed.distinct⟩
  cases violation with
  | unnamed empty => exact wellFormed.named empty
  | unversioned named empty => exact wellFormed.versioned empty
  | faulty named versioned first => exact clean _ first.faulty

theorem Violation.unique {error other : DescriptorError} (violation : model.Violation error)
    (second : model.Violation other) : error = other := by
  cases violation with
  | unnamed empty =>
    cases second with
    | unnamed => rfl
    | unversioned named => exact absurd empty named
    | faulty named => exact absurd empty named
  | unversioned named empty =>
    cases second with
    | unnamed unnamed => exact absurd unnamed named
    | unversioned => rfl
    | faulty _ versioned => exact absurd empty versioned
  | faulty named versioned first =>
    cases second with
    | unnamed empty => exact absurd empty named
    | unversioned _ empty => exact absurd empty versioned
    | faulty _ _ other =>
      obtain ⟨rfl, rfl⟩ := first.unique other
      rfl

theorem validate_eq_ok_iff : model.validate = .ok () ↔ model.WellFormed := by
  rcases validate_cases model with ⟨accepted, wellFormed⟩ | ⟨error, refused, violation⟩
  · exact iff_of_true accepted wellFormed
  · exact iff_of_false (by simp [refused]) violation.not_wellFormed

/-- A model is accepted when it is well formed; otherwise it is refused for the first thing that is
wrong with it. -/
theorem first_violation_reported (model : Model) :
    (model.validate = .ok () ↔ model.WellFormed) ∧
      ∀ error, model.validate = .error error ↔ model.Violation error := by
  refine ⟨validate_eq_ok_iff, fun error => ?_⟩
  rcases validate_cases model with ⟨accepted, wellFormed⟩ | ⟨found, refused, violation⟩
  · exact iff_of_false (by simp [accepted]) fun violation => violation.not_wellFormed wellFormed
  · rw [refused]
    exact ⟨fun same => Except.error.inj same ▸ violation,
      fun second => congrArg Except.error (violation.unique second)⟩

end Model

end ModelForge
