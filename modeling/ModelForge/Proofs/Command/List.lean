import ModelForge.Proofs.Command.Arguments
import ModelForge.Proofs.Repository.Exact
import ModelForge.Proofs.Repository.Native
import ModelForge.Proofs.Repository.Traversal

/-! The command that lists a repository, from its words to what it prints. Whatever goes wrong, in
the words, the config, the walk or the loading of any artifact, nothing is printed; otherwise
everything is, in the order of the artifacts. -/
namespace ModelForge

namespace Repository

variable {disk : Disk} {here : Location} {path : Path} {paths : List Path}

/-- Where one order of the directories gives a listing, every order gives the same one. -/
theorem artifacts_unordered {order : Listing} (named : disk.NamedBelow [])
    (listed : artifacts disk order here path = .ok paths) (other : Listing) :
    artifacts disk other here path = .ok paths := by
  cases there : disk.isDirectory here path with
  | false =>
    obtain ⟨fault, fails⟩ := artifacts_elsewhere there
    rw [fails order] at listed
    cases listed
  | true =>
    obtain ⟨location, clean, reaches, standing⟩ := Disk.isDirectory_iff.1 there
    have located := Disk.locate_eq_ok_iff.2 ⟨clean, reaches⟩
    have below : disk.NamedBelow location := fun names present name member =>
      named (names ++ location) (by simpa using present) name (List.mem_append_left _ member)
    have short : ∀ names, disk.Descends location names →
        (path.within names).text.utf8ByteSize ≤ Disk.pathLimit := by
      intro names descends
      by_contra long
      obtain ⟨_, _, _, fails⟩ := artifacts_deep order located standing descends (not_le.1 long)
      rw [fails] at listed
      cases listed
    obtain ⟨found, lists, members, sorted⟩ := artifacts_sorted order located standing below short
    obtain ⟨found', lists', members', sorted'⟩ :=
      artifacts_sorted other located standing below short
    obtain rfl : found = paths := by simpa [lists] using listed
    rw [lists', Path.eq_of_lt sorted' sorted fun file => (members' file).trans (members file).symm]

end Repository

namespace Command

section Words

variable {disk : Disk} {here : Location} {repository : Path} {words : List String}
  {given : Given} {uses : List Use}

theorem unclustered_list : Unclustered listForm.options := by
  simp [Unclustered, listForm, helpParameter]

/-- The repository that is listed: the one that a config names, or else the one that the words name,
or else the working directory. -/
inductive Selects (disk : Disk) (here : Location) (uses : List Use) : Path → Prop where
  | config {file : String} {config : Repository.Config} (given : valuesOf "config" uses = [file])
      (loads : Repository.Config.load disk here ⟨file⟩ = .ok config) :
      Selects disk here uses config.path
  | path {text : String} (unconfigured : ¬ usedIn "config" uses)
      (given : valuesOf "path" uses = [text]) : Selects disk here uses ⟨text⟩
  | working (unconfigured : ¬ usedIn "config" uses) (unnamed : ¬ usedIn "path" uses) :
      Selects disk here uses ⟨"."⟩

theorem values_of_list {long : String} (spells : Spells listForm.options words uses)
    (either : long = "config" ∨ long = "path") :
    (∃ value, valuesOf long uses = [value]) ∨ (¬ usedIn long uses ∧ valuesOf long uses = []) := by
  by_cases used : usedIn long uses
  · refine .inl (spells.one_value ?_ used)
    rcases either with rfl | rfl <;>
      simp [listForm, helpParameter, Parameter.takesValue, Parameter.repeatable]
  · exact .inr ⟨used, valuesOf_eq_nil used⟩

theorem selects_of_repositoryAt (spells : Spells listForm.options words uses)
    (holds : given.Holds uses)
    (found : repositoryAt disk here (ListOptions.ofGiven given).whereabouts = .ok repository) :
    Selects disk here uses repository := by
  simp only [ListOptions.ofGiven, Given.value?, holds.values] at found
  rcases values_of_list spells (.inl rfl) with ⟨file, configured⟩ | ⟨unconfigured, none⟩
  · simp only [configured, List.head?_cons, repositoryAt] at found
    split at found
    case h_1 config loads =>
      cases found
      exact .config configured loads
    case h_2 => cases found
  · rcases values_of_list spells (.inr rfl) with ⟨text, named⟩ | ⟨unnamed, none'⟩
    · simp only [none, named, List.head?_nil, List.head?_cons, repositoryAt] at found
      cases found
      exact .path unconfigured named
    · simp only [none, none', List.head?_nil, repositoryAt] at found
      cases found
      exact .working unconfigured unnamed

theorem ofArguments_list (words : List String) : ofArguments ("list-models" :: words) =
    (listForm.read words).map fun given => .list (.ofGiven given) := by
  have named : ofArguments ("list-models" :: words) =
      (do pure (.list (.ofGiven (← listForm.read words)))) := rfl
  rw [named]
  cases listForm.read words <;> rfl

end Words

section Listing

variable {options : ListOptions} {order : Repository.Listing} {loader : Repository.Loader}
  {here : Location} {disk : Disk}

/-- What is printed of some artifacts, and of the models loaded from them if they were loaded. -/
inductive Shows (repository : Path) (loader : Repository.Loader) (artifacts : List Path) :
    Bool → List String → Prop where
  | noArtifacts (none : artifacts = []) :
      Shows repository loader artifacts true [s!"No model artifacts under {repository}"]
  | artifacts (some : artifacts ≠ []) :
      Shows repository loader artifacts true (artifacts.map Path.text)
  | noModels (none : artifacts = []) :
      Shows repository loader artifacts false [s!"No models under {repository}"]
  | models {models : List Plugin.Handle} (some : artifacts ≠ [])
      (loads : List.Forall₂ (fun path model => loader path = .ok model) artifacts models) :
      Shows repository loader artifacts false (models.flatMap fun model =>
        (model.info.name ++ " " ++ model.info.version) :: model.info.modules.map moduleLine)

/-- Nothing is printed but a whole listing, and that is printed if there is one. -/
theorem list_cases (options : ListOptions) (order : Repository.Listing) (loader : Repository.Loader)
    (here : Location) (disk : Disk) :
    (∃ repository artifacts lines, repositoryAt disk here options.whereabouts = .ok repository ∧
      Repository.artifacts disk order here repository = .ok artifacts ∧
      Shows repository loader artifacts options.artifactsOnly lines ∧
      options.run order loader here disk = .printed lines) ∨
    (∃ failure, options.run order loader here disk = .failed failure) ∧
      ∀ repository artifacts, repositoryAt disk here options.whereabouts = .ok repository →
        Repository.artifacts disk order here repository = .ok artifacts →
        options.artifactsOnly = false ∧
          ∃ path ∈ artifacts, ∃ error, loader path = .error error := by
  rcases at_ : repositoryAt disk here options.whereabouts with failure | repository
  · refine .inr ⟨⟨failure, by simp [ListOptions.run, at_]⟩, fun repository artifacts found => ?_⟩
    cases found
  rcases listed : Repository.artifacts disk order here repository with error | artifacts
  · refine .inr ⟨?_, fun other artifacts found lists => ?_⟩
    · cases only : options.artifactsOnly with
      | true => exact ⟨_, by simp [ListOptions.run, at_, only, listed]; rfl⟩
      | false => exact ⟨_, by simp [ListOptions.run, at_, only, Repository.listModels, listed]; rfl⟩
    · cases found
      rw [listed] at lists
      cases lists
  cases only : options.artifactsOnly with
  | true =>
    refine .inl ⟨repository, artifacts, artifactLines repository artifacts, rfl, listed, ?_, ?_⟩
    · cases artifacts with
      | nil => exact .noArtifacts rfl
      | cons first rest => exact .artifacts (by simp)
    · simp [ListOptions.run, at_, only, listed]
  | false =>
    have result : (Repository.listModels disk order loader here repository).result =
        (Repository.loadAll loader artifacts).result := by
      simp [Repository.listModels, listed]
    rcases Repository.loadAll_cases loader artifacts with
      ⟨models, loads, all⟩ | ⟨before, path, after, error, shape, -, fails, upTo⟩
    · refine .inl ⟨repository, artifacts, listing repository models, rfl, listed, ?_, ?_⟩
      · cases loads with
        | nil => exact .noModels rfl
        | cons first rest => exact .models (by simp) (.cons first rest)
      · simp [ListOptions.run, at_, only, result, all]
    · refine .inr ⟨⟨_, by simp [ListOptions.run, at_, only, result, upTo]; rfl⟩, ?_⟩
      intro other others found lists
      cases found
      obtain rfl : artifacts = others := by simpa [listed] using lists
      exact ⟨rfl, path, by simp [shape], error, fails⟩

end Listing

theorem loaded_of_mem {loader : Repository.Loader} {artifacts : List Path}
    {models : List Plugin.Handle}
    (loads : List.Forall₂ (fun path model => loader path = .ok model) artifacts models)
    {path : Path} (member : path ∈ artifacts) : ∃ model, loader path = .ok model := by
  induction loads with
  | nil => cases member
  | cons first _ ih =>
    rcases List.mem_cons.mp member with rfl | later
    · exact ⟨_, first⟩
    · exact ih later

/-- The loader with which the program lists. -/
def Surroundings.loader (surroundings : Surroundings) (disk : Disk) : Repository.Loader :=
  Repository.nativeLoader
    ⟨surroundings.platform, surroundings.toolchain, disk, surroundings.here⟩ []

theorem run_listed {surroundings : Surroundings} {words : List String} {given : Given} {disk : Disk}
    (read : listForm.read words = .ok given) :
    run surroundings ("list-models" :: words) disk =
      ((ListOptions.ofGiven given).run .sorted (surroundings.loader disk) surroundings.here disk,
        disk) := by
  simp only [run, ofArguments_list, read, Except.map, Surroundings.loader]

theorem run_unlisted (surroundings : Surroundings) (disk : Disk) {words : List String}
    {ending : Ending} (refused : listForm.read words = .error ending) :
    (run surroundings ("list-models" :: words) disk).2 = disk ∧
      ((ending = .help ∨ ending = .version) ∨
        (run surroundings ("list-models" :: words) disk).1.status ≠ 0 ∧
          (run surroundings ("list-models" :: words) disk).1.output = "") := by
  simp only [run, ofArguments_list, refused, Except.map]
  cases ending with
  | misuse misuse => exact ⟨rfl, .inr ⟨by simp [Outcome.misused], rfl⟩⟩
  | help => exact ⟨rfl, .inl (.inl rfl)⟩
  | version => exact ⟨rfl, .inl (.inr rfl)⟩

/-- Listing a repository leaves the disk alone and prints everything or nothing. With a status other
than zero nothing is printed. With the status zero, unless help or the version was asked for, the
words are a row of options that select a repository; its artifacts, the same whatever the order in
which directories list their entries, are printed in their order if only they are asked for, and
otherwise every one of them is loaded and its model printed with its modules. The status is zero
whenever there is such a listing. -/
theorem listing_whole (surroundings : Surroundings) (words : List String) (disk : Disk) :
    (run surroundings ("list-models" :: words) disk).2 = disk ∧
    ((run surroundings ("list-models" :: words) disk).1.status ≠ 0 →
      (run surroundings ("list-models" :: words) disk).1.output = "") ∧
    ((run surroundings ("list-models" :: words) disk).1.status = 0 →
      (∃ ending, listForm.read words = .error ending ∧ (ending = .help ∨ ending = .version)) ∨
      ∃ front uses repository artifacts lines, (words = front ∨ words = front ++ ["--"]) ∧
        Spells listForm.options front uses ∧
        Selects disk surroundings.here uses repository ∧
        Repository.artifacts disk .sorted surroundings.here repository = .ok artifacts ∧
        (disk.NamedBelow [] → ∀ order,
          Repository.artifacts disk order surroundings.here repository = .ok artifacts) ∧
        Shows repository (surroundings.loader disk) artifacts (usedIn "artifacts-only" uses) lines ∧
        (usedIn "artifacts-only" uses = false →
          ∀ path ∈ artifacts, ∃ model, surroundings.loader disk path = .ok model) ∧
        (run surroundings ("list-models" :: words) disk).1 = .printed lines) ∧
    ∀ given repository artifacts, listForm.read words = .ok given →
      repositoryAt disk surroundings.here (ListOptions.ofGiven given).whereabouts =
        .ok repository →
      Repository.artifacts disk .sorted surroundings.here repository = .ok artifacts →
      (given.has "artifacts-only" = true ∨
        ∀ path ∈ artifacts, ∃ model, surroundings.loader disk path = .ok model) →
      (run surroundings ("list-models" :: words) disk).1.status = 0 := by
  rcases read : listForm.read words with ending | given
  · obtain ⟨disk_eq, either⟩ := run_unlisted surroundings disk read
    refine ⟨disk_eq, fun failed => ?_, fun succeeded => ?_, fun given _ _ other => by cases other⟩
    · rcases either with (rfl | rfl) | ⟨-, silent⟩
      · simp [run, ofArguments_list, read, Except.map, Outcome.printed] at failed
      · simp [run, ofArguments_list, read, Except.map, Outcome.printed] at failed
      · exact silent
    · rcases either with asked | ⟨failed, -⟩
      · exact .inl ⟨ending, rfl, asked⟩
      · exact absurd succeeded failed
  obtain ⟨uses, front, shape, spells, holds, -⟩ := Form.read_spells unclustered_list read
  rw [run_listed read]
  rcases list_cases (.ofGiven given) .sorted (surroundings.loader disk) surroundings.here disk with
    ⟨repository, artifacts, lines, found, listed, shows, printed⟩ | ⟨⟨failure, failed⟩, otherwise⟩
  · refine ⟨rfl, fun failed => ?_, fun _ => .inr ?_, fun _ _ _ _ _ _ _ => by rw [printed]; rfl⟩
    · rw [printed] at failed
      exact absurd rfl failed
    have only : (ListOptions.ofGiven given).artifactsOnly = usedIn "artifacts-only" uses := by
      simp [ListOptions.ofGiven, holds.has]
    rw [only] at shows
    refine ⟨front, uses, repository, artifacts, lines, shape, spells,
      selects_of_repositoryAt spells holds found, listed,
      fun named => Repository.artifacts_unordered named listed, shows, fun loaded path member => ?_,
      printed⟩
    rw [loaded] at shows
    cases shows with
    | noModels none => simp [none] at member
    | models some loads => exact loaded_of_mem loads member
  · refine ⟨rfl, fun _ => by rw [failed]; rfl, fun succeeded => ?_, ?_⟩
    · rw [failed] at succeeded
      cases succeeded
    · intro other repository artifacts same found listed loads
      cases same
      obtain ⟨loaded, path, member, error, fails⟩ := otherwise repository artifacts found listed
      rcases loads with only | all
      · have flagged : given.has "artifacts-only" = false := loaded
        simp [only] at flagged
      · obtain ⟨model, loads⟩ := all path member
        rw [loads] at fails
        cases fails

/-- The surroundings of the sample host, whose working directory holds one library. -/
def librarySurroundings : Surroundings :=
  ⟨["w"], Repository.sampleHost.platform, "rustc 1", "cargo"⟩

/-- The working directory is listed whole, and a repository that is missing not at all. -/
theorem listing_whole_sample :
    run librarySurroundings ["list-models"] Repository.sampleHost.disk =
      (.printed ["m 1"], Repository.sampleHost.disk) ∧
    (run librarySurroundings ["list-models", "--path", "r"] Repository.sampleHost.disk).1.status ≠ 0 ∧
    (run librarySurroundings ["list-models", "--path", "r"] Repository.sampleHost.disk).1.output =
      "" := by
  constructor
  · obtain ⟨unchanged, -, whole, succeeds⟩ :=
      listing_whole librarySurroundings [] Repository.sampleHost.disk
    have found : Repository.artifacts Repository.sampleHost.disk .sorted ["w"] ⟨"."⟩ =
        .ok [⟨"./m.so.1"⟩] :=
      congrArg Except.ok (List.mergeSort_singleton (Path.mk "./m.so.1"))
    have loads : librarySurroundings.loader Repository.sampleHost.disk ⟨"./m.so.1"⟩ =
        .ok (Repository.nominalHandle ⟨"m", "1"⟩) := by rfl
    have ended := succeeds [] ⟨"."⟩ [⟨"./m.so.1"⟩] (by rfl) (by rfl) found
      (.inr fun path member => ⟨_, List.mem_singleton.mp member ▸ loads⟩)
    obtain ⟨_, asked, _⟩ | ⟨front, uses, repository, artifacts, lines, shape, spells, selects,
      listed, -, shows, -, printed⟩ := whole ended
    · cases asked
    obtain rfl : front = [] := by simpa using shape
    obtain rfl : uses = [] := by
      generalize none : ([] : List String) = words at spells
      cases spells with
      | nothing => rfl
      | more _ _ _ gives => cases gives <;> simp at none
    cases selects with
    | config given => cases given
    | path _ given => cases given
    | working =>
      obtain rfl : [⟨"./m.so.1"⟩] = artifacts := Except.ok.inj (found.symm.trans listed)
      cases shows with
      | noModels none => cases none
      | models _ each =>
        cases each with
        | cons first rest =>
          cases rest
          obtain rfl := Except.ok.inj (loads.symm.trans first)
          exact Prod.ext printed unchanged
  · have failed : (run librarySurroundings ["list-models", "--path", "r"]
        Repository.sampleHost.disk).1.status ≠ 0 := by decide +kernel
    exact ⟨failed, (listing_whole librarySurroundings ["--path", "r"]
      Repository.sampleHost.disk).2.1 failed⟩

end Command

end ModelForge
