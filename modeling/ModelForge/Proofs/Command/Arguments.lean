import ModelForge.Command.Command

/-! What the words of a command say. A list of words that is read is a row of options, each in one
of its spellings, and what is read of an option is its values in the order of the words. The
options here have a short form only where they take a value, so no word holds two of them. -/
namespace ModelForge.Command

open Text

/-- A value is kept as it was given, except that names lose their upper case. -/
def Kind.kept : Kind → String → String
  | .name _ _, value => lowered value
  | _, value => value

theorem Kind.kept_of_check {kind : Kind} {option value kept : String}
    (checked : kind.check option value = .ok kept) : kept = kind.kept value := by
  cases kind with
  | anyText => simpa [Kind.check, Kind.kept, eq_comm] using checked
  | path =>
    simp only [Kind.check, refuse] at checked
    split at checked
    · cases checked
    · simpa [Kind.kept, eq_comm] using checked
  | name what known =>
    simp only [Kind.check, refuse] at checked
    split at checked
    · simpa [Kind.kept, eq_comm] using checked
    · cases checked

def Parameter.kept (option : Parameter) (value : String) : String :=
  match option.takes with
  | .value _ kind _ => kind.kept value
  | _ => value

/-- An option as it was given, with its value if it takes one. -/
abbrev Use := Parameter × Option String

/-- The values that an option was given, in order. -/
def valuesOf (long : String) (uses : List Use) : List String :=
  uses.filterMap fun (option, value) =>
    if option.long = long then value.map option.kept else none

def usedIn (long : String) (uses : List Use) : Bool := uses.any (·.1.long = long)

/-- A word that can be the value of the option before it: it does not look like an option. -/
def Loose (word : String) : Prop := ∀ c rest, word.toList ≠ '-' :: c :: rest

def Parameter.takesValue (option : Parameter) : Bool :=
  match option.takes with
  | .value _ _ _ => true
  | _ => false

def Parameter.repeatable (option : Parameter) : Bool :=
  match option.takes with
  | .value _ _ repeatable => repeatable
  | _ => false

/-- A word that names an option and leaves its value to the next word. -/
inductive Opens (option : Parameter) : String → Prop
  | long : Opens option ("--" ++ option.long)
  | short {c : Char} (named : option.short = some c) : Opens option (String.ofList ['-', c])

/-- The words that give an option its value, or give an option that takes none. -/
inductive Gives (option : Parameter) : Option String → List String → Prop
  | flag (plain : option.takes = .nothing) : Gives option none ["--" ++ option.long]
  | long (value : String) (takes : option.takesValue) :
      Gives option (some value) ["--" ++ option.long ++ "=" ++ value]
  | short {c : Char} {value : List Char} (takes : option.takesValue)
      (named : option.short = some c) (filled : value ≠ []) (plain : value.head? ≠ some '=') :
      Gives option (some (String.ofList value)) [String.ofList ('-' :: c :: value)]
  | shortEquals {c : Char} (value : List Char) (takes : option.takesValue)
      (named : option.short = some c) :
      Gives option (some (String.ofList value)) [String.ofList ('-' :: c :: '=' :: value)]
  | apart {word value : String} (takes : option.takesValue) (opens : Opens option word)
      (loose : Loose value) : Gives option (some value) [word, value]

theorem Gives.value {option : Parameter} {value : Option String} {words : List String}
    (gives : Gives option value words) (takes : option.takesValue) : ∃ v, value = some v := by
  cases gives with
  | flag plain => simp [Parameter.takesValue, plain] at takes
  | long | short | shortEquals | apart => exact ⟨_, rfl⟩

/-- The words that give some of the options one after the other, most of them once at most. -/
inductive Spells (options : List Parameter) : List String → List Use → Prop
  | nothing : Spells options [] []
  | more {words given : List String} {uses : List Use} {option : Parameter} {value : Option String}
      (earlier : Spells options words uses) (known : option ∈ options)
      (once : usedIn option.long uses → option.repeatable) (gives : Gives option value given) :
      Spells options (words ++ given) (uses ++ [(option, value)])

namespace Given

/-- What is known of every option after the ones in a list were read. -/
structure Holds (given : Given) (uses : List Use) : Prop where
  values (long : String) : given.values long = valuesOf long uses
  has (long : String) : given.has long = usedIn long uses

theorem lookup_map (given : Given) (long other : String) (more : List String) :
    List.lookup other (given.map fun (name, values) =>
        if name = long then (name, values ++ more) else (name, values)) =
      (given.lookup other).map fun values => if other = long then values ++ more else values := by
  induction given with
  | nil => rfl
  | cons entry rest ih =>
    obtain ⟨name, values⟩ := entry
    by_cases found : other = name
    · subst found
      by_cases named : other = long <;> simp [named]
    · have apart : (other == name) = false := beq_eq_false_iff_ne.mpr found
      by_cases named : name = long <;>
        simp only [List.map_cons, named, if_true, if_false, List.lookup_cons, ih]
      · rw [named] at apart
        simp only [apart]
      · simp only [apart]

theorem lookup_add (given : Given) (long other : String) (more : List String) :
    (given.add long more).lookup other =
      if other = long then some (given.values long ++ more) else given.lookup other := by
  unfold add has values
  cases known : given.lookup long with
  | none =>
    by_cases same : other = long
    · subst same
      simp [known, List.lookup_append]
    · simp [same, beq_eq_false_iff_ne.mpr same, List.lookup_append, List.lookup_cons]
  | some earlier =>
    simp only [Option.isSome_some, if_true, Option.getD_some, lookup_map]
    by_cases same : other = long
    · simp [same, known]
    · simp [same]

theorem holds_nil : Holds [] [] := ⟨fun _ => rfl, fun _ => rfl⟩

theorem Holds.add {given : Given} {uses : List Use} (holds : given.Holds uses)
    (option : Parameter) (value : Option String) :
    (given.add option.long (value.map option.kept).toList).Holds (uses ++ [(option, value)]) where
  values long := by
    have earlier := holds.values long
    unfold Given.values at earlier ⊢
    rw [lookup_add]
    by_cases same : long = option.long
    · subst same
      cases value <;> simp_all [valuesOf, Given.values]
    · simp_all [valuesOf, Ne.symm same]
  has long := by
    have earlier := holds.has long
    unfold Given.has at earlier ⊢
    rw [lookup_add]
    by_cases same : long = option.long
    · simp [same, usedIn]
    · simp_all [usedIn, Ne.symm same]

end Given

section Reading

variable {options : List Parameter} {words : List String}

/-- How far some words bring the reading. An option that is pending does not count yet, and its
value may be the next word. -/
inductive Reads (options : List Parameter) :
    List String → Given → Option (Parameter × Option String) → Prop
  | settled {words : List String} {uses : List Use} {given : Given}
      (spells : Spells options words uses) (holds : given.Holds uses) :
      Reads options words given none
  | pending {words more : List String} {uses : List Use} {given : Given} {option : Parameter}
      {value : String} (spells : Spells options words uses) (holds : given.Holds uses)
      (known : option ∈ options) (takes : option.takesValue)
      (gives : Gives option (some value) more) :
      Reads options (words ++ more) given (some (option, some value))
  | waiting {words : List String} {word : String} {uses : List Use} {given : Given}
      {option : Parameter} (spells : Spells options words uses) (holds : given.Holds uses)
      (known : option ∈ options) (takes : option.takesValue) (opens : Opens option word) :
      Reads options (words ++ [word]) given (some (option, none))

theorem accept_flag {given : Given} {option : Parameter} {next : Reading} {trailing : Bool}
    (plain : option.takes = .nothing)
    (accepted : Reading.accept ⟨given, none, trailing⟩ option none = .ok next) :
    next = ⟨given.add option.long [], none, trailing⟩ ∧ ¬ given.has option.long := by
  simp only [Reading.accept, plain, refuse] at accepted
  split at accepted
  · cases accepted
  · next new => exact ⟨(Except.ok.inj accepted).symm, new⟩

theorem accept_value {given : Given} {option : Parameter} {value : String} {next : Reading}
    {trailing : Bool} (takes : option.takesValue)
    (accepted : Reading.accept ⟨given, none, trailing⟩ option (some value) = .ok next) :
    next = ⟨given.add option.long [option.kept value], none, trailing⟩ ∧
      (given.has option.long → option.repeatable) := by
  unfold Parameter.takesValue at takes
  split at takes
  case h_1 placeholder kind repeatable shape =>
    simp only [Reading.accept, shape, refuse] at accepted
    split at accepted
    · cases accepted
    · next allowed =>
      cases checked : kind.check option.shown value with
      | error ending => simp [checked, Except.map] at accepted
      | ok kept =>
        rw [checked] at accepted
        have value_eq := Kind.kept_of_check checked
        simp only [Except.map, Except.ok.injEq] at accepted
        refine ⟨?_, fun again => ?_⟩
        · rw [← accepted, value_eq]
          simp [Parameter.kept, shape]
        · simpa [Parameter.repeatable, shape, again] using allowed
  · cases takes

theorem accept_missing {given : Given} {option : Parameter} {next : Reading} {trailing : Bool}
    (takes : option.takesValue) :
    Reading.accept ⟨given, none, trailing⟩ option none ≠ .ok next := by
  unfold Parameter.takesValue at takes
  split at takes
  case h_1 placeholder kind repeatable shape => simp [Reading.accept, shape, refuse]
  · cases takes

/-- An option that is pending counts once its value is there. -/
theorem Reads.settle {given : Given} {pending : Option (Parameter × Option String)}
    {trailing : Bool} {next : Reading} (reads : Reads options words given pending)
    (settled : Reading.settle ⟨given, pending, trailing⟩ = .ok next) :
    ∃ uses given, Spells options words uses ∧ given.Holds uses ∧
      next = ⟨given, none, trailing⟩ := by
  cases reads with
  | settled spells holds =>
    cases settled
    exact ⟨_, _, spells, holds, rfl⟩
  | pending spells holds known takes gives =>
    obtain ⟨next_eq, once⟩ := accept_value takes settled
    rw [holds.has] at once
    exact ⟨_, _, spells.more known once gives, holds.add _ (some _), next_eq⟩
  | waiting spells holds known takes opens => exact absurd settled (accept_missing takes)

theorem Reads.complete {given : Given} {pending : Option (Parameter × Option String)}
    {option : Parameter} {value : Option String} {more : List String} {next : Reading}
    (reads : Reads options words given pending) (known : option ∈ options)
    (gives : Gives option value more)
    (completed : Reading.complete ⟨given, pending, false⟩ option value = .ok next) :
    next.trailing = false ∧ Reads options (words ++ more) next.given next.pending := by
  unfold Reading.complete at completed
  cases settled : Reading.settle ⟨given, pending, false⟩ with
  | error ending => simp [settled, bind, Except.bind] at completed
  | ok middle =>
    obtain ⟨uses, given', spells, holds, rfl⟩ := reads.settle settled
    simp only [settled, bind, Except.bind] at completed
    have counted := holds.add option value
    cases gives with
    | flag plain =>
      obtain ⟨rfl, new⟩ := accept_flag plain completed
      rw [holds.has] at new
      exact ⟨rfl, .settled (spells.more known (fun again => absurd again new) (.flag plain)) counted⟩
    | long value takes | short takes | shortEquals value takes | apart takes =>
      obtain ⟨rfl, once⟩ := accept_value takes completed
      rw [holds.has] at once
      exact ⟨rfl, .settled (spells.more known once (by constructor <;> assumption)) counted⟩

theorem Reads.await {given : Given} {pending : Option (Parameter × Option String)}
    {option : Parameter} {word : String} {next : Reading}
    (reads : Reads options words given pending) (known : option ∈ options)
    (takes : option.takesValue) (opens : Opens option word)
    (awaited : Reading.await ⟨given, pending, false⟩ option = .ok next) :
    next.trailing = false ∧ Reads options (words ++ [word]) next.given next.pending := by
  unfold Reading.await at awaited
  cases settled : Reading.settle ⟨given, pending, false⟩ with
  | error ending => simp [settled, bind, Except.bind] at awaited
  | ok middle =>
    obtain ⟨uses, given', spells, holds, rfl⟩ := reads.settle settled
    simp only [settled, bind, Except.bind, pure, Except.pure, Except.ok.injEq] at awaited
    rw [← awaited]
    exact ⟨rfl, .waiting spells holds known takes opens⟩

/-- An option that takes a value can be ended by nothing else, and one that takes none has no
short form. -/
def Unclustered (options : List Parameter) : Prop :=
  ∀ option ∈ options, option.takes = .nothing → option.short = none

theorem ending_not_complete {reading next : Reading} {option : Parameter} {ending : Ending}
    {value : Option String} (ends : option.takes = .ending ending) :
    reading.complete option value ≠ .ok next := by
  unfold Reading.complete
  cases reading.settle with
  | error ending => simp [bind, Except.bind]
  | ok middle => simp [bind, Except.bind, Reading.accept, ends]

theorem known_of_find {options : List Parameter} {p : Parameter → Bool} {option : Parameter}
    (found : options.find? p = some option) : option ∈ options ∧ p option :=
  ⟨List.mem_of_find?_eq_some found, List.find?_some found⟩

theorem takesValue_of_value {option : Parameter} {placeholder : String} {kind : Kind}
    {repeatable : Bool} (shape : option.takes = .value placeholder kind repeatable) :
    option.takesValue := by
  simp [Parameter.takesValue, shape]

theorem Reads.long {given : Given} {pending : Option (Parameter × Option String)}
    {word : List Char} {next : Reading} (reads : Reads options words given pending)
    (read : Reading.long options ⟨given, pending, false⟩ word = .ok next) :
    next.trailing = false ∧
      Reads options (words ++ [String.ofList ('-' :: '-' :: word)]) next.given next.pending := by
  unfold Reading.long at read
  cases cut : cut? '=' word with
  | none =>
    simp only [cut] at read
    split at read
    · cases read
    · next option found =>
      obtain ⟨known, named⟩ := known_of_find found
      have spelled : String.ofList ('-' :: '-' :: word) = "--" ++ option.long := by
        rw [of_decide_eq_true named]
        exact String.toList_inj.mp (by simp)
      rw [spelled]
      cases shape : option.takes with
      | nothing =>
        simp only [shape] at read
        exact reads.complete known (.flag shape) read
      | ending ending =>
        simp only [shape] at read
        exact absurd read (ending_not_complete shape)
      | value placeholder kind repeatable =>
        simp only [shape] at read
        exact reads.await known (takesValue_of_value shape) .long read
  | some halves =>
    obtain ⟨name, value⟩ := halves
    simp only [cut] at read
    split at read
    · cases read
    · next option found =>
      obtain ⟨known, named⟩ := known_of_find found
      cases shape : option.takes with
      | value placeholder kind repeatable =>
        simp only [shape] at read
        have spelled : String.ofList ('-' :: '-' :: word) =
            "--" ++ option.long ++ "=" ++ String.ofList value := by
          rw [of_decide_eq_true named, (cut?_eq_some cut).1]
          exact String.toList_inj.mp (by simp)
        rw [spelled]
        exact reads.complete known (.long _ (takesValue_of_value shape)) read
      | nothing | ending =>
        simp only [shape, refuse] at read
        cases read

theorem Reads.short {given : Given} {pending : Option (Parameter × Option String)}
    {c : Char} {rest : List Char} {next : Reading} (reads : Reads options words given pending)
    (unclustered : Unclustered options)
    (read : Reading.short options ⟨given, pending, false⟩ (c :: rest) = .ok next) :
    next.trailing = false ∧
      Reads options (words ++ [String.ofList ('-' :: c :: rest)]) next.given next.pending := by
  unfold Reading.short at read
  split at read
  · cases read
  · next option found =>
    obtain ⟨known, named⟩ := known_of_find found
    have named := of_decide_eq_true named
    cases shape : option.takes with
    | nothing => rw [unclustered option known shape] at named; cases named
    | ending ending =>
      simp only [shape] at read
      cases completed : Reading.complete ⟨given, pending, false⟩ option none with
      | error ending => simp [completed, bind, Except.bind] at read
      | ok middle => exact absurd completed (ending_not_complete shape)
    | value placeholder kind repeatable =>
      have takes := takesValue_of_value shape
      simp only [shape] at read
      split at read
      · exact reads.await known takes (.short named) read
      · exact reads.complete known (.shortEquals _ takes named) read
      · next empty equals =>
        refine reads.complete known (.short takes named empty ?_) read
        intro first
        cases rest with
        | nil => cases first
        | cons d more => exact equals more (by simpa using first)

/-- The words so far, two dashes that end the options left out. -/
def Reached (options : List Parameter) (words : List String) (reading : Reading) : Prop :=
  ∃ front, Reads options front reading.given reading.pending ∧
    words = front ++ if reading.trailing then ["--"] else []

theorem Reached.word {reading next : Reading} {w : String}
    (reached : Reached options words reading) (unclustered : Unclustered options)
    (read : reading.word options w = .ok next) : Reached options (words ++ [w]) next := by
  obtain ⟨front, reads, rfl⟩ := reached
  obtain ⟨given, pending, trailing⟩ := reading
  unfold Reading.word at read
  cases trailing with
  | true => simp [refuse] at read
  | false =>
    simp only [Bool.false_eq_true, if_false, List.append_nil] at read ⊢
    split at read
    · next dashes =>
      have spelled : w = "--" := String.toList_inj.mp dashes
      cases read
      exact ⟨front, reads, by simp [spelled]⟩
    · next rest _ dashes =>
      have spelled : String.ofList ('-' :: '-' :: rest) = w := by
        rw [← dashes, String.ofList_toList]
      obtain ⟨going, more⟩ := reads.long read
      exact ⟨_, more, by simp [going, spelled]⟩
    · next c rest _ _ dash =>
      have spelled : String.ofList ('-' :: c :: rest) = w := by
        rw [← dash, String.ofList_toList]
      obtain ⟨going, more⟩ := reads.short unclustered read
      exact ⟨_, more, by simp [going, spelled]⟩
    · next noDashes noLong noShort =>
      split at read
      · cases read
        cases reads with
        | waiting spells holds known takes opens =>
          have gives : Gives _ (some w) _ := .apart takes opens noShort
          exact ⟨_, .pending spells holds known takes gives, by simp⟩
      · cases read

theorem Reached.read {more : List String} {reading next : Reading}
    (reached : Reached options words reading) (unclustered : Unclustered options)
    (read : more.foldlM (Reading.word options) reading = .ok next) :
    Reached options (words ++ more) next := by
  induction more generalizing words reading with
  | nil => cases read; simpa using reached
  | cons w rest ih =>
    rw [List.foldlM_cons] at read
    cases one : reading.word options w with
    | error ending => simp [one, bind, Except.bind] at read
    | ok middle =>
      rw [one] at read
      have later := ih (reached.word unclustered one) read
      rwa [List.append_assoc] at later

end Reading

/-- What is read of a command's words: the words give options in a row, up to two dashes that may
end them, and an option's values are the ones that the words give it, in their order. -/
theorem Form.read_spells {form : Form} {words : List String} {given : Given}
    (unclustered : Unclustered form.options) (read : form.read words = .ok given) :
    ∃ uses front, (words = front ∨ words = front ++ ["--"]) ∧ Spells form.options front uses ∧
      given.Holds uses ∧ ∀ long ∈ form.required, usedIn long uses := by
  unfold Form.read at read
  cases ran : words.foldlM (Reading.word form.options) .start with
  | error ending => simp [ran, bind, Except.bind] at read
  | ok last =>
    have start : Reached form.options [] .start := ⟨[], .settled .nothing Given.holds_nil, rfl⟩
    obtain ⟨front, reads, shape⟩ := start.read unclustered ran
    rw [List.nil_append] at shape
    obtain ⟨taken, pending, trailing⟩ := last
    simp only [ran, bind, Except.bind] at read
    cases settled : Reading.settle ⟨taken, pending, trailing⟩ with
    | error ending => simp [settled] at read
    | ok whole =>
      obtain ⟨uses, given', spells, holds, rfl⟩ := reads.settle settled
      simp only [settled] at read
      have ⟨same, required⟩ : given' = given ∧ ∀ long ∈ form.required, given'.has long := by
        split at read
        · cases read
        · split at read
          · next missing => exact ⟨Except.ok.inj read, by simpa using missing⟩
          · cases read
      subst same
      simp only [holds.has] at required
      refine ⟨uses, front, ?_, spells, holds, required⟩
      cases trailing
      · exact .inl (by simpa using shape)
      · exact .inr (by simpa using shape)

section Uses

variable {options : List Parameter} {words : List String} {uses : List Use} {long : String}

theorem valuesOf_append (uses more : List Use) :
    valuesOf long (uses ++ more) = valuesOf long uses ++ valuesOf long more :=
  List.filterMap_append

theorem valuesOf_eq_nil (unused : ¬ usedIn long uses) : valuesOf long uses = [] := by
  simp only [usedIn, Bool.not_eq_true, List.any_eq_false, decide_eq_true_eq] at unused
  simp only [valuesOf, List.filterMap_eq_nil_iff]
  intro use member
  simp [unused use member]

/-- An option that may be given once and takes a value has one value where it is given. -/
theorem Spells.one_value (spells : Spells options words uses)
    (kind : ∀ option ∈ options, option.long = long → option.takesValue ∧ ¬ option.repeatable)
    (used : usedIn long uses) : ∃ value, valuesOf long uses = [value] := by
  induction spells with
  | nothing => simp [usedIn] at used
  | @more words given uses option value earlier known once gives ih =>
    rw [valuesOf_append]
    by_cases same : option.long = long
    · obtain ⟨takes, single⟩ := kind option known same
      have unused : ¬ usedIn long uses := fun again => single (once (by rwa [same]))
      obtain ⟨value, rfl⟩ := gives.value takes
      rw [valuesOf_eq_nil unused, List.nil_append]
      exact ⟨option.kept value, by simp [valuesOf, same]⟩
    · have before : usedIn long uses := by simpa [usedIn, same] using used
      simpa [valuesOf, same] using ih before

end Uses

end ModelForge.Command
