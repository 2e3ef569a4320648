import ModelForge.Command.Run
import ModelForge.Proofs.Command.Arguments

/-! The command that compiles a model, from its words to the disk. The words of all modules are
looked at first, then their files, then the model, and the disk changes only in the compilation
that follows. -/
namespace ModelForge.Command

section Words

theorem unclustered_compile : Unclustered compileForm.options := by
  simp [Unclustered, compileForm, helpParameter]

theorem program_ends : ∀ option ∈ programParameters, ∃ ending, option.takes = .ending ending := by
  simp [programParameters, helpParameter]

/-- Every option of the program itself ends what follows, so only two dashes are read on. -/
theorem trailing_of_word {w : String} {next : Reading}
    (read : Reading.word programParameters .start w = .ok next) : next.trailing = true := by
  simp only [Reading.word, Reading.start, Bool.false_eq_true, if_false] at read
  split at read
  · cases read
    rfl
  · simp only [Reading.long] at read
    split at read
    · cases read
    · next option found =>
      obtain ⟨ending, ends⟩ := program_ends option (known_of_find found).1
      simp only [ends] at read
      split at read
      · contradiction
      · contradiction
      · cases read
      · exact absurd read (ending_not_complete ends)
  · simp only [Reading.short] at read
    split at read
    · cases read
    · next option found =>
      obtain ⟨ending, ends⟩ := program_ends option (known_of_find found).1
      simp only [ends] at read
      cases completed : Reading.complete ⟨[], none, false⟩ option none with
      | error ending => simp [completed, bind, Except.bind] at read
      | ok middle => exact absurd completed (ending_not_complete ends)
  · cases read

theorem readHelp_not_ok {words : List String} {command : Command} :
    readHelp words ≠ .ok command := by
  intro read
  unfold readHelp at read
  split at read
  · cases read
  · split at read
    · split at read <;> cases read
    · cases read

/-- Two dashes leave room for no command. -/
theorem ofWords_trailing {reading : Reading} {words : List String} {command : Command}
    (trailing : reading.trailing = true) : ofWords reading words ≠ .ok command := by
  intro accepted
  cases words with
  | nil => cases accepted
  | cons word rest =>
    simp only [ofWords, trailing, if_true] at accepted
    split at accepted <;> cases accepted

/-- The first word of a command line names the command. -/
theorem named_of_arguments {arguments : List String} {command : Command}
    (accepted : ofArguments arguments = .ok command) :
    ∃ name words read, arguments = name :: words ∧ named.lookup name = some read ∧
      read words = .ok command := by
  unfold ofArguments at accepted
  cases arguments with
  | nil => cases accepted
  | cons name words =>
    have going : Reading.start.trailing = false := rfl
    simp only [ofWords, going, Bool.false_eq_true, if_false] at accepted
    split at accepted
    · split at accepted
      · next read known =>
        split at known
        · cases known
          exact absurd accepted readHelp_not_ok
        · exact ⟨name, words, read, rfl, known, accepted⟩
      · cases accepted
    · cases ran : Reading.word programParameters .start name with
      | error ending => simp [ran, bind, Except.bind] at accepted
      | ok next =>
        simp only [ran, bind, Except.bind] at accepted
        exact absurd accepted (ofWords_trailing (trailing_of_word ran))

/-- What the words of the command are taken to mean. -/
structure Describes (uses : List Use) (options : CompileOptions) : Prop where
  name : valuesOf "name" uses = [options.model.name]
  version : valuesOf "version" uses = [options.model.version]
  modules : options.modules = valuesOf "module" uses
  templates : options.settings.templatePath =
    ((valuesOf "templates" uses).head?.map Path.mk).getD ⟨"templates"⟩
  output : options.settings.outputPath = ((valuesOf "output" uses).head?.map Path.mk).getD ⟨"."⟩
  mode : options.settings.mode =
    ((valuesOf "mode" uses).head?.bind fun name => Mode.named.lookup name).getD .loadable
  toolchain : options.settings.toolchainVersion =
    (valuesOf "toolchain-version" uses).head?.getD "1.75"
  policy : options.settings.copyPolicy =
    if usedIn "overwrite-modules" uses then .overwrite else .skipExisting
  generator : options.bindingGenerator =
    (valuesOf "binding-generator" uses).head?.getD "yang-bindgen"

theorem describes_of_read {words : List String} {given : Given}
    (read : compileForm.read words = .ok given) :
    ∃ front uses, (words = front ∨ words = front ++ ["--"]) ∧
      Spells compileForm.options front uses ∧ Describes uses (.ofGiven given) := by
  obtain ⟨uses, front, shape, spells, holds, required⟩ := Form.read_spells unclustered_compile read
  have name_used : usedIn "name" uses := required "name" (by simp [compileForm])
  have version_used : usedIn "version" uses := required "version" (by simp [compileForm])
  obtain ⟨name, name_eq⟩ := spells.one_value (by
    simp [compileForm, helpParameter, Parameter.takesValue, Parameter.repeatable]) name_used
  obtain ⟨version, version_eq⟩ := spells.one_value (by
    simp [compileForm, helpParameter, Parameter.takesValue, Parameter.repeatable]) version_used
  refine ⟨front, uses, shape, spells, ?_⟩
  constructor <;>
    simp [CompileOptions.ofGiven, Given.value?, holds.values, holds.has, name_eq, version_eq,
      Compile.Toolchain.defaultBindingGenerator]

theorem describes_of_arguments {arguments : List String} {options : CompileOptions}
    (accepted : ofArguments arguments = .ok (.compile options)) :
    ∃ words uses, (arguments = "compile-plugin" :: words ∨
        arguments = "compile-plugin" :: words ++ ["--"]) ∧
      Spells compileForm.options words uses ∧ Describes uses options := by
  obtain ⟨name, words, read, rfl, found, ran⟩ := named_of_arguments accepted
  by_cases compiles : name = "compile-plugin"
  · subst compiles
    cases found
    cases taken : compileForm.read words with
    | error ending => simp [taken, bind, Except.bind] at ran
    | ok given =>
      simp only [taken, bind, Except.bind, pure, Except.pure, Except.ok.injEq,
        Command.compile.injEq] at ran
      obtain ⟨front, uses, shape, spells, describes⟩ := describes_of_read taken
      subst ran
      refine ⟨front, uses, ?_, spells, describes⟩
      rcases shape with rfl | rfl
      · exact .inl rfl
      · exact .inr rfl
  · simp only [named, List.lookup_cons, beq_eq_false_iff_ne.mpr compiles] at found
    split at found
    · cases found
      cases taken : listForm.read words with
      | error ending => simp [taken, bind, Except.bind] at ran
      | ok given => simp [taken, bind, Except.bind, pure, Except.pure] at ran
    · cases found

end Words

section Modules

variable {α β ε : Type} {f : α → Except ε β}

theorem mapM_of_first_error {before after : List α} {x : α} {error : ε}
    (fine : ∀ y ∈ before, ∃ value, f y = .ok value) (bad : f x = .error error) :
    (before ++ x :: after).mapM f = .error error := by
  induction before with
  | nil => simp [bad, bind, Except.bind]
  | cons y rest ih =>
    obtain ⟨value, first⟩ := fine y (by simp)
    have later := ih fun z member => fine z (by simp [member])
    simp [first, later, bind, Except.bind]

theorem mapM_of_all_ok {xs : List α} {ys : List β} (fine : xs.map f = ys.map .ok) :
    xs.mapM f = .ok ys := by
  induction xs generalizing ys with
  | nil =>
    cases ys with
    | nil => rfl
    | cons y rest => cases fine
  | cons x rest ih =>
    cases ys with
    | nil => cases fine
    | cons y more =>
      obtain ⟨first, later⟩ := List.cons.inj fine
      simp [first, ih later, bind, Except.bind, pure, Except.pure]

variable {disk : Disk} {here : Location} {options : CompileOptions}

theorem readModel_malformed {before after : List String} {value : String} {fault : ModuleFault}
    (values : options.modules = before ++ value :: after)
    (fine : ∀ earlier ∈ before, ∃ keyed, moduleArgument earlier = .ok keyed)
    (bad : moduleArgument value = .error fault) :
    readModel disk here options = .error ⟨fault.message, []⟩ := by
  simp only [readModel, values, mapM_of_first_error fine bad]
  rfl

/-- The files are read once all arguments are taken apart. -/
theorem readModel_of_keyed {keyed : List (Identity × Path)}
    (parsed : options.modules.map moduleArgument = keyed.map .ok) :
    readModel disk here options =
      (keyed.mapM fun entry => readModule disk here entry.1 entry.2).map
        fun modules => ⟨options.model.name, options.model.version, modules⟩ := by
  simp only [readModel, mapM_of_all_ok parsed]
  rfl

theorem readModel_unreadable {before after : List (Identity × Path)} {key : Identity} {path : Path}
    {fault : Fault} (parsed : options.modules.map moduleArgument =
      (before ++ (key, path) :: after).map .ok)
    (fine : ∀ earlier ∈ before, ∃ data, disk.read here earlier.2 = .ok data)
    (bad : disk.read here path = .error fault) :
    readModel disk here options =
      .error (.ofFault s!"cannot read module {key.key} from '{path}'" fault) := by
  have unread : (fun entry : Identity × Path => readModule disk here entry.1 entry.2) (key, path) =
      .error (.ofFault s!"cannot read module {key.key} from '{path}'" fault) := by
    simp only [readModule, bad]
  have earlier : ∀ entry ∈ before, ∃ m, readModule disk here entry.1 entry.2 = .ok m := by
    intro entry member
    obtain ⟨data, read⟩ := fine entry member
    exact ⟨entry.1.withData data, by simp only [readModule, read]⟩
  rw [readModel_of_keyed parsed, mapM_of_first_error earlier unread]
  rfl

/-- The model that a command line describes, given its keys and what is in their files. -/
def described (options : CompileOptions) (keyed : List (Identity × Path)) (data : List ByteArray) :
    Model :=
  ⟨options.model.name, options.model.version,
    List.zipWith (fun entry data => ⟨entry.1.name, entry.1.version, none, data⟩) keyed data⟩

theorem readModule_read {keyed : List (Identity × Path)} {data : List ByteArray}
    (read : keyed.map (fun entry => disk.read here entry.2) = data.map .ok) :
    keyed.map (fun entry => readModule disk here entry.1 entry.2) =
      (described options keyed data).modules.map .ok := by
  simp only [described]
  induction keyed generalizing data with
  | nil => rfl
  | cons entry rest ih =>
    cases data with
    | nil => cases read
    | cons bytes more =>
      obtain ⟨first, later⟩ := List.cons.inj read
      rw [List.zipWith_cons_cons, List.map_cons, List.map_cons, ← ih later]
      simp only [readModule, first, Identity.withData]

theorem readModel_read {keyed : List (Identity × Path)} {data : List ByteArray}
    (parsed : options.modules.map moduleArgument = keyed.map .ok)
    (read : keyed.map (fun entry => disk.read here entry.2) = data.map .ok) :
    readModel disk here options = .ok (described options keyed data) := by
  have modules : keyed.map (fun entry => readModule disk here entry.1 entry.2) =
      (described options keyed data).modules.map .ok := readModule_read read
  rw [readModel_of_keyed parsed, mapM_of_all_ok modules]
  rfl

end Modules

section Course

variable {surroundings : Surroundings} {arguments : List String} {options : CompileOptions}
  {disk : Disk}

theorem run_failed {failure : Failure} (accepted : ofArguments arguments = .ok (.compile options))
    (unread : readModel disk surroundings.here options = .error failure) :
    run surroundings arguments disk = (.failed failure, disk) := by
  simp only [run, accepted, CompileOptions.run, unread]

theorem ofCompile_descriptor (attempt : String) (cause : DescriptorError) :
    Failure.ofCompile attempt (.descriptor cause) =
      ⟨attempt, ["invalid model descriptor: " ++ cause.message, cause.message]⟩ := rfl

theorem described_identity (keyed : List (Identity × Path)) (data : List ByteArray) :
    (described options keyed data).identity = options.model := rfl

theorem run_refused {model : Model} {cause : DescriptorError}
    (accepted : ofArguments arguments = .ok (.compile options))
    (read : readModel disk surroundings.here options = .ok model)
    (refused : model.validate = .error cause) :
    run surroundings arguments disk = (.failed (.ofCompile
      s!"failed to compile model {model.identity.key}" (.descriptor cause)), disk) := by
  simp only [run, accepted, CompileOptions.run, read, Compile.compile, refused]
  simp [Outcome.after, Outcome.failed]

theorem run_compiled {model : Model} (accepted : ofArguments arguments = .ok (.compile options))
    (read : readModel disk surroundings.here options = .ok model) :
    (run surroundings arguments disk).2 =
      (Compile.compile surroundings.here options.settings
        (.programs options.bindingGenerator surroundings.builder) model disk).2.disk := by
  simp only [run, accepted, CompileOptions.run, read]

/-- The command looks at everything before it touches the disk: at all module arguments, in the
order of the words, then at all files, in the same order, then at the model. The first thing wrong
is reported and leaves the disk alone; when nothing is wrong, the disk becomes what the compilation
of the described model makes of it. -/
theorem compile_staged (surroundings : Surroundings) (disk : Disk)
    (accepted : ofArguments arguments = .ok (.compile options)) :
    (∃ words uses,
      (arguments = "compile-plugin" :: words ∨ arguments = "compile-plugin" :: words ++ ["--"]) ∧
      Spells compileForm.options words uses ∧ Describes uses options) ∧
    (∀ before value after fault, options.modules = before ++ value :: after →
      (∀ earlier ∈ before, ∃ keyed, moduleArgument earlier = .ok keyed) →
      moduleArgument value = .error fault →
      run surroundings arguments disk = (.failed ⟨fault.message, []⟩, disk)) ∧
    ∀ keyed, options.modules.map moduleArgument = keyed.map .ok →
      (∀ before key path after fault, keyed = before ++ (key, path) :: after →
        (∀ earlier ∈ before, ∃ data, disk.read surroundings.here earlier.2 = .ok data) →
        disk.read surroundings.here path = .error fault →
        run surroundings arguments disk =
          (.failed ⟨s!"cannot read module {key.key} from '{path}'", [fault.message]⟩, disk)) ∧
      ∀ data, keyed.map (fun entry => disk.read surroundings.here entry.2) = data.map .ok →
        (∀ cause, (described options keyed data).validate = .error cause →
          run surroundings arguments disk =
            (.failed ⟨s!"failed to compile model {options.model.key}",
              ["invalid model descriptor: " ++ cause.message, cause.message]⟩, disk)) ∧
        ((described options keyed data).validate = .ok () →
          (run surroundings arguments disk).2 =
            (Compile.compile surroundings.here options.settings
              (.programs options.bindingGenerator surroundings.builder)
              (described options keyed data) disk).2.disk) := by
  refine ⟨describes_of_arguments accepted, ?_, fun keyed parsed => ⟨?_, fun data read => ⟨?_, ?_⟩⟩⟩
  · intro before value after fault values fine bad
    exact run_failed accepted (readModel_malformed values fine bad)
  · rintro before key path after fault rfl fine bad
    exact run_failed accepted (readModel_unreadable parsed fine bad)
  · intro cause refused
    have told := run_refused accepted (readModel_read parsed read) refused
    rwa [described_identity, ofCompile_descriptor] at told
  · intro _
    exact run_compiled accepted (readModel_read parsed read)

end Course

def sampleSurroundings : Surroundings :=
  ⟨["w"], ⟨fun _ => none, fun _ => none, "no library"⟩, "lean 4", "cargo"⟩

def sampleOptions (modules : List String) : CompileOptions :=
  ⟨⟨"m", "1"⟩, modules, { outputPath := ⟨"o"⟩, copyPolicy := .overwrite }, "yang-bindgen"⟩

/-- A command line with the options in several of their spellings. -/
def sampleArguments (modules : List String) : List String :=
  ["compile-plugin", "--name=m", "-v", "1", "-oo", "--overwrite-modules"] ++
    modules.flatMap (["-m", ·])

/-- A disk with one schema file in the working directory. -/
def sampleFiles : Disk :=
  (Disk.empty.put "w" [] .directory).put "a" ["w"] (.file "A".toUTF8 false)

/-- A malformed second value is reported though the file of the first is missing, and of two
missing files the first. -/
theorem compile_staged_sample :
    run sampleSurroundings (sampleArguments ["a@1=gone", "b@"]) sampleFiles =
      (.failed ⟨"module 'b@' must have the form name@version=path", []⟩, sampleFiles) ∧
    run sampleSurroundings (sampleArguments ["a@1=a", "b@1=gone", "c@1=lost"]) sampleFiles =
      (.failed ⟨"cannot read module b@1 from 'gone'", ["No such file or directory (os error 2)"]⟩,
        sampleFiles) := by
  constructor
  · have accepted : ofArguments (sampleArguments ["a@1=gone", "b@"]) =
        .ok (.compile (sampleOptions ["a@1=gone", "b@"])) := by rfl
    obtain ⟨_, malformed, _⟩ := compile_staged sampleSurroundings sampleFiles accepted
    refine malformed ["a@1=gone"] "b@" [] (.noSeparator "b@") rfl ?_ rfl
    intro earlier member
    rw [List.mem_singleton.mp member]
    exact ⟨(⟨"a", "1"⟩, ⟨"gone"⟩), rfl⟩
  · have accepted : ofArguments (sampleArguments ["a@1=a", "b@1=gone", "c@1=lost"]) =
        .ok (.compile (sampleOptions ["a@1=a", "b@1=gone", "c@1=lost"])) := by rfl
    obtain ⟨_, _, staged⟩ := compile_staged sampleSurroundings sampleFiles accepted
    obtain ⟨unreadable, _⟩ := staged
      [(⟨"a", "1"⟩, ⟨"a"⟩), (⟨"b", "1"⟩, ⟨"gone"⟩), (⟨"c", "1"⟩, ⟨"lost"⟩)] rfl
    refine unreadable [(⟨"a", "1"⟩, ⟨"a"⟩)] ⟨"b", "1"⟩ ⟨"gone"⟩ [(⟨"c", "1"⟩, ⟨"lost"⟩)] .notFound
      rfl ?_ ?_
    · intro earlier member
      rw [List.mem_singleton.mp member]
      exact ⟨"A".toUTF8, by rfl⟩
    · rfl

end ModelForge.Command
