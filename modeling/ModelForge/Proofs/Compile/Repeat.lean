import ModelForge.Proofs.Compile.Local

/-! Stages that are run again. What a stage does to its own entries does not depend on any others;
and a stage that succeeds where it has been run before, however that ended, leaves what it would
have left at once. A schema file that existing files are skipped for is never changed. -/
namespace ModelForge

/-- A new file may not be run, an old one keeps its permission, and a device stays what it is. -/
theorem Entry.write_cases {before : Option Entry} {content : ByteArray} {entry : Entry}
    (written : Entry.write before content = .ok entry) :
    (∃ executable, entry = .file content executable ∧
      (before = none ∧ executable = false ∨ ∃ old, before = some (.file old executable))) ∨
    ∃ kind, entry = .device kind ∧ before = some (.device kind) := by
  rcases before with _ | (_ | ⟨old, executable⟩ | target | (_ | _))
  · cases written
    exact .inl ⟨false, rfl, .inl ⟨rfl, rfl⟩⟩
  · cases written
  · cases written
    exact .inl ⟨executable, rfl, .inr ⟨old, rfl⟩⟩
  · cases written
  · cases written
    exact .inr ⟨.null, rfl, rfl⟩
  · simp only [Entry.write] at written
    split at written
    · cases written
      exact .inr ⟨.full, rfl, rfl⟩
    · cases written

/-- The second of two contents is written as if the first one had not been. -/
theorem Entry.write_write {before : Option Entry} {first : ByteArray} {entry : Entry}
    (written : Entry.write before first = .ok entry) (second : ByteArray) :
    Entry.write (some entry) second = Entry.write before second := by
  rcases Entry.write_cases written with
    ⟨executable, rfl, ⟨rfl, rfl⟩ | ⟨old, rfl⟩⟩ | ⟨kind, rfl, rfl⟩ <;> rfl

namespace Compile

open Disk

/-- What is staged beside a schema file, when it makes no difference to what the file becomes: no
device, and no file that may be run. -/
structure Neutral (staged : Option Entry) : Prop where
  noDevice : ∀ kind, staged ≠ some (.device kind)
  notExecutable : ∀ content, staged ≠ some (.file content true)

theorem Neutral.none : Neutral none := ⟨by simp, by simp⟩

section Actions

theorem furnished_furnished (fits : Bool) (before : Option Entry) :
    furnished fits (furnished fits before).2 = furnished fits before := by
  rcases before with _ | (_ | _ | _ | _)
  · cases fits <;> rfl
  all_goals rfl

theorem overwritten_overwritten (fits : Bool) (first second : ByteArray)
    (before : Option Entry) :
    overwritten fits second (overwritten fits first before).2 =
      overwritten fits second before := by
  cases fits with
  | false => rfl
  | true =>
    cases written : Entry.write before first with
    | error fault => simp [overwritten, written]
    | ok entry =>
      have again := Entry.write_write written second
      rcases Entry.write_cases written with ⟨executable, rfl, old⟩ | ⟨kind, rfl, rfl⟩
      · have taken : ∃ entry, Entry.write before second = .ok entry := ⟨_, again.symm⟩
        obtain ⟨entry, taken⟩ := taken
        simp [overwritten, written, again, taken]
      · simp [overwritten, written]

theorem Stage.action_action (stage : Stage) (fits : Bool) (first second : ByteArray)
    (before : Option Entry) :
    stage.action fits second (stage.action fits first before).2 =
      stage.action fits second before := by
  cases stage with
  | folder f => exact furnished_furnished fits before
  | _ => exact overwritten_overwritten fits first second before

end Actions

section Turn

variable {fit staged : Bool} {data : ByteArray} {pair : Pair}

/-- When existing files are skipped, a turn that is taken leaves a file, and one that fails leaves
everything as it is. -/
theorem turn_skipExisting (data : ByteArray) (pair : Pair) (order : staged = true → fit = true) :
    (turn .skipExisting fit staged data pair).1 = true ∧ fit = true ∧
        (turn .skipExisting fit staged data pair).2.file ≠ none ∨
      turn .skipExisting fit staged data pair = (false, pair) := by
  by_cases skips : fit = true ∧ pair.file ≠ none
  · exact .inl (by simp [turn, skips])
  have goes : ¬(CopyPolicy.skipExisting = .skipExisting ∧ fit = true ∧ pair.file ≠ none) :=
    fun both => skips both.2
  rw [turn, if_neg goes]
  by_cases fits : staged = true
  · cases written : Entry.write pair.staged data with
    | error fault => simp [fits]
    | ok entry =>
      have vacant : pair.file = none := by_contra fun present => skips ⟨order fits, present⟩
      exact .inl (by simp [fits, vacant, order fits])
  · simp [fits]

/-- A file that is there is skipped, and not changed if it could not even be looked for. -/
theorem turn_skipped (order : staged = true → fit = true) (present : pair.file ≠ none) :
    turn .skipExisting fit staged data pair = (fit, pair) := by
  cases fit with
  | true => simp [turn, present]
  | false =>
    have unfit : staged = false := by simpa using order
    simp [turn, unfit]

/-- Where nothing is skipped, a turn succeeds at these entries. -/
structure Pair.Ready (staged : Bool) (pair : Pair) : Prop where
  fits : staged = true
  staging : pair.staged = none ∨ ∃ content, pair.staged = some (.file content false)
  file : pair.file ≠ some .directory

theorem Pair.Ready.turn (ready : pair.Ready staged) :
    turn .overwrite fit staged data pair = (true, ⟨some (.file data false), none⟩) := by
  rcases ready.staging with absent | ⟨content, found⟩
  · simp [Compile.turn, ready.fits, absent, Entry.write, ready.file]
  · simp [Compile.turn, ready.fits, found, Entry.write, ready.file]

/-- Whether a turn succeeds does not depend on the data; and one that fails leaves entries at which
it fails again. -/
theorem Pair.ready_of_turn (neutral : Neutral pair.staged)
    (ready : (Compile.turn .overwrite fit staged data pair).1 = true ∨
      (Compile.turn .overwrite fit staged data pair).2.Ready staged) : pair.Ready staged := by
  by_cases fits : staged = true
  · cases written : Entry.write pair.staged data with
    | error fault =>
      simp only [Compile.turn, reduceCtorEq, false_and, if_false, fits, if_true, written,
        Bool.false_eq_true, false_or] at ready
      rwa [fits]
    | ok entry =>
      by_cases occupied : pair.file = some .directory
      · rcases ready with taken | ready
        · simp [Compile.turn, fits, written, occupied] at taken
        · exact absurd (by simp [Compile.turn, fits, written, occupied]) ready.file
      · refine ⟨fits, ?_, occupied⟩
        cases before : pair.staged with
        | none => exact .inl rfl
        | some entry =>
          cases entry with
          | file content executable =>
            cases executable with
            | false => exact .inr ⟨content, rfl⟩
            | true => exact absurd before (neutral.notExecutable content)
          | device kind => exact absurd before (neutral.noDevice kind)
          | directory | link target => simp [before, Entry.write] at written
  · rcases ready with taken | ready
    · simp [Compile.turn, fits] at taken
    · exact absurd ready.fits fits

theorem neutral_turn {policy : CopyPolicy} (neutral : Neutral pair.staged) :
    Neutral (turn policy fit staged data pair).2.staged := by
  have kept : (turn policy fit staged data pair).2.staged = pair.staged ∨
      (turn policy fit staged data pair).2.staged = none := by
    unfold turn
    split
    · exact .inl rfl
    split
    · split
      · exact .inl rfl
      · split <;> exact .inr rfl
    · exact .inl rfl
  rcases kept with eq | eq
  · rwa [eq]
  · rw [eq]
    exact .none

end Turn

section Turns

variable {policy : CopyPolicy} {base : Path} {m : SchemaModule} {modules : List SchemaModule}
  {u v : View}

theorem View.setPair_pair (view : View) (name : String) :
    View.setPair view name (View.pair view name) = view := by
  simp [setPair, pair]

theorem takeTurn_fst (view : View) : (takeTurn policy base m view).1 =
    (turn policy (fits base m.fileName) (fits base (stagedName m.fileName)) m.data
      (View.pair view m.fileName)).1 := rfl

theorem takeTurn_snd (view : View) : (takeTurn policy base m view).2 =
    View.setPair view m.fileName (turn policy (fits base m.fileName)
      (fits base (stagedName m.fileName)) m.data (View.pair view m.fileName)).2 := rfl

theorem turns_cons (rest : List SchemaModule) (view : View) :
    turns policy base (m :: rest) view =
      if (takeTurn policy base m view).1 = true
      then turns policy base rest (takeTurn policy base m view).2
      else (false, (takeTurn policy base m view).2) := by
  rw [turns]
  rcases takeTurn policy base m view with ⟨_ | _, _⟩ <;> rfl

/-- What is kept by every turn is kept by all of them. -/
theorem turns_induct (Good : View → Prop) (modules : List SchemaModule)
    (turn : ∀ m ∈ modules, ∀ view, Good view → Good (takeTurn policy base m view).2)
    (view : View) (good : Good view) : Good (turns policy base modules view).2 := by
  induction modules generalizing view with
  | nil => exact good
  | cons m rest ih =>
    have first := turn m List.mem_cons_self view good
    rw [turns_cons]
    split
    · exact ih (fun other member => turn other (List.mem_cons_of_mem _ member)) _ first
    · exact first

theorem turns_frame {below : Location}
    (other : ∀ m ∈ modules, ¬SchemaPlace ["yang"] m.fileName below) :
    (turns policy base modules v).2 below = v below := by
  refine turns_induct (fun view => view below = v below) modules ?_ v rfl
  intro m member view same
  rw [takeTurn_snd, View.setPair_of_ne (other m member), same]

/-- The turns depend on the entries that they are about. -/
theorem turns_congr {own : Location → Prop} (modules : List SchemaModule)
    (owned : ∀ m ∈ modules, ∀ below, SchemaPlace ["yang"] m.fileName below → own below)
    (same : ∀ below, own below → u below = v below) :
    (turns policy base modules u).1 = (turns policy base modules v).1 ∧
      ∀ below, own below →
        (turns policy base modules u).2 below = (turns policy base modules v).2 below := by
  induction modules generalizing u v with
  | nil => exact ⟨rfl, same⟩
  | cons m rest ih =>
    have mine := owned m List.mem_cons_self
    have pair : View.pair u m.fileName = View.pair v m.fileName := by
      rw [View.pair, View.pair, same _ (mine _ (.inl rfl)), same _ (mine _ (.inr rfl))]
    have after : ∀ below, own below → (takeTurn policy base m u).2 below =
        (takeTurn policy base m v).2 below := by
      intro below owns
      rw [takeTurn_snd, takeTurn_snd, pair, View.setPair, View.setPair]
      simp only [Function.update_apply, same below owns]
    rw [turns_cons, turns_cons, takeTurn_fst, takeTurn_fst, pair]
    split
    · exact ih (fun other member => owned other (List.mem_cons_of_mem _ member)) after
    · exact ⟨rfl, after⟩

/-- A schema file that is there is not changed when existing files are skipped. -/
theorem turns_kept (base : Path) {name : String} (modules : List SchemaModule)
    (unslashed : ∀ m ∈ modules, m.identity.Unslashed)
    (unstaged : ∀ m ∈ modules, name ≠ stagedName m.fileName) (present : v [name, "yang"] ≠ none) :
    (turns .skipExisting base modules v).2 [name, "yang"] = v [name, "yang"] := by
  refine turns_induct (fun view => view [name, "yang"] = v [name, "yang"]) modules ?_ v rfl
  intro m member view same
  rw [takeTurn_snd]
  by_cases own : name = m.fileName
  · subst own
    have there : (View.pair view m.fileName).file ≠ none := by
      change view [m.fileName, "yang"] ≠ none
      rwa [same]
    rw [turn_skipped (fits_of_staged (SchemaModule.isName_fileName (unslashed m member))) there,
      View.setPair_pair, same]
  · rw [View.setPair_of_ne, same]
    rintro (eq | eq)
    · exact own (List.cons.inj eq).1
    · exact unstaged m member (List.cons.inj eq).1

theorem neutral_takeTurn {other : SchemaModule} {view : View}
    (neutral : Neutral (View.pair view other.fileName).staged) :
    Neutral (View.pair (takeTurn policy base m view).2 other.fileName).staged := by
  rw [takeTurn_snd]
  by_cases same : other.fileName = m.fileName
  · rw [same, View.pair_setPair_self]
    rw [same] at neutral
    exact neutral_turn neutral
  · rwa [View.pair_setPair_of_ne _ _ same]

theorem turns_neutral (modules : List SchemaModule)
    (neutral : Neutral (View.pair v m.fileName).staged) :
    Neutral (View.pair (turns policy base modules v).2 m.fileName).staged :=
  turns_induct (fun view => Neutral (View.pair view m.fileName).staged) modules
    (fun _ _ _ good => neutral_takeTurn good) v neutral

/-- When existing files are skipped, the turns that were taken are skipped the next time. -/
theorem turns_again_skipped (modules : List SchemaModule)
    (unslashed : ∀ m ∈ modules, m.identity.Unslashed) (view : View) :
    turns .skipExisting base modules (turns .skipExisting base modules view).2 =
      turns .skipExisting base modules view := by
  induction modules generalizing view with
  | nil => rfl
  | cons m rest ih =>
    have order : fits base (stagedName m.fileName) = true → fits base m.fileName = true :=
      fits_of_staged (SchemaModule.isName_fileName (unslashed m List.mem_cons_self))
    have more := fun other member => unslashed other (List.mem_cons_of_mem _ member)
    rcases turn_skipExisting m.data (View.pair view m.fileName) order with
      ⟨taken, fit, present⟩ | failed
    · rw [turns_cons rest view, takeTurn_fst, if_pos taken]
      have there : (takeTurn .skipExisting base m view).2 [m.fileName, "yang"] ≠ none := by
        have same := View.pair_setPair_self view m.fileName (turn .skipExisting
          (fits base m.fileName) (fits base (stagedName m.fileName)) m.data
          (View.pair view m.fileName)).2
        rw [takeTurn_snd]
        exact fun absent => present ((congrArg Pair.file same).symm.trans absent)
      have kept := turns_kept base rest more
        (fun other _ => fileName_ne_stagedName m other.fileName) there
      have again : takeTurn .skipExisting base m
          (turns .skipExisting base rest (takeTurn .skipExisting base m view).2).2 =
          (true, (turns .skipExisting base rest (takeTurn .skipExisting base m view).2).2) := by
        refine Prod.ext ?_ ?_
        · rw [takeTurn_fst, turn_skipped order (by simpa [View.pair, kept] using there), fit]
        · rw [takeTurn_snd, turn_skipped order (by simpa [View.pair, kept] using there),
            View.setPair_pair]
      rw [turns_cons, again, if_pos rfl, ih more]
    · have unchanged : takeTurn .skipExisting base m view = (false, view) := by
        refine Prod.ext ?_ ?_
        · rw [takeTurn_fst, failed]
        · rw [takeTurn_snd, failed, View.setPair_pair]
      simp [turns_cons, unchanged]

/-- Whether a turn can be taken at a schema file. -/
def Ready (base : Path) (m : SchemaModule) (view : View) : Prop :=
  (View.pair view m.fileName).Ready (fits base (stagedName m.fileName))

theorem Ready.takeTurn {view : View} (ready : Ready base m view) :
    takeTurn .overwrite base m view =
      (true, View.setPair view m.fileName ⟨some (.file m.data false), none⟩) := by
  refine Prod.ext ?_ ?_
  · rw [takeTurn_fst, Pair.Ready.turn ready]
  · rw [takeTurn_snd, Pair.Ready.turn ready]

/-- A turn that is taken leaves every other schema file as ready as it was. -/
theorem Ready.after {other : SchemaModule} {view : View} (ready : Ready base other view) :
    Ready base other (View.setPair view m.fileName ⟨some (.file m.data false), none⟩) := by
  by_cases same : other.fileName = m.fileName
  · have fits := ready.fits
    rw [Ready, same, View.pair_setPair_self]
    rw [same] at fits
    exact ⟨fits, .inl rfl, by simp⟩
  · rw [Ready, View.pair_setPair_of_ne _ _ same]
    exact ready

theorem ready_of_takeTurn {other : SchemaModule} {view : View}
    (neutral : Neutral (View.pair view other.fileName).staged)
    (ready : Ready base other (takeTurn .overwrite base m view).2) : Ready base other view := by
  rw [Ready, takeTurn_snd] at ready
  by_cases same : other.fileName = m.fileName
  · rw [same, View.pair_setPair_self] at ready
    rw [same] at neutral
    rw [Ready, same]
    exact Pair.ready_of_turn neutral (.inr ready)
  · rwa [View.pair_setPair_of_ne _ _ same] at ready

/-- Where every turn is ready to be taken, only the other entries matter to what is left. -/
theorem turns_ready (modules : List SchemaModule) (first : ∀ m ∈ modules, Ready base m u)
    (second : ∀ m ∈ modules, Ready base m v)
    (same : ∀ below, (∀ m ∈ modules, ¬SchemaPlace ["yang"] m.fileName below) → u below = v below) :
    turns .overwrite base modules u = turns .overwrite base modules v := by
  induction modules generalizing u v with
  | nil => rw [funext fun below => same below (by simp)]
  | cons m rest ih =>
    rw [turns_cons, turns_cons, (first m List.mem_cons_self).takeTurn,
      (second m List.mem_cons_self).takeTurn, if_pos rfl, if_pos rfl]
    refine ih (fun other member => (first other (List.mem_cons_of_mem _ member)).after)
      (fun other member => (second other (List.mem_cons_of_mem _ member)).after) ?_
    intro below elsewhere
    by_cases own : SchemaPlace ["yang"] m.fileName below
    · rcases own with rfl | rfl <;> simp [View.setPair, Function.update_apply]
    · simp only [View.setPair_of_ne own]
      refine same below fun other member => ?_
      rcases List.mem_cons.1 member with rfl | member
      · exact own
      · exact elsewhere other member

theorem ready_of_turns (modules : List SchemaModule)
    (neutral : ∀ m ∈ modules, Neutral (View.pair v m.fileName).staged)
    (taken : (turns .overwrite base modules v).1 = true) : ∀ m ∈ modules, Ready base m v := by
  induction modules generalizing v with
  | nil => simp
  | cons m rest ih =>
    rw [turns_cons] at taken
    split at taken
    · rename_i first
      have ready : Ready base m v :=
        Pair.ready_of_turn (neutral m List.mem_cons_self) (.inl (takeTurn_fst v ▸ first))
      have after := ih (v := (takeTurn .overwrite base m v).2)
        (fun other member => neutral_takeTurn (neutral other (List.mem_cons_of_mem _ member))) taken
      intro other member
      rcases List.mem_cons.1 member with rfl | more
      · exact ready
      · exact ready_of_takeTurn (neutral other member) (after other more)
    · cases taken

/-- Turns that succeed after they have been tried before, however that ended, leave what they would
have left at once. -/
theorem turns_again (modules : List SchemaModule)
    (unslashed : ∀ m ∈ modules, m.identity.Unslashed)
    (neutral : policy = .overwrite → ∀ m ∈ modules, Neutral (View.pair v m.fileName).staged)
    (taken : (turns policy base modules (turns policy base modules v).2).1 = true) :
    turns policy base modules (turns policy base modules v).2 = turns policy base modules v := by
  cases policy with
  | skipExisting => exact turns_again_skipped modules unslashed v
  | overwrite =>
    have neutral := neutral rfl
    have after := ready_of_turns modules
      (fun m member => turns_neutral modules (neutral m member)) taken
    refine turns_ready modules after (fun m member => ?_) fun below elsewhere =>
      turns_frame elsewhere
    refine (turns_induct (fun view => Neutral (View.pair view m.fileName).staged ∧
      (Ready base m view → Ready base m v)) modules ?_ v ⟨neutral m member, id⟩).2 (after m member)
    rintro other - view ⟨neutral, before⟩
    exact ⟨neutral_takeTurn neutral, fun ready => before (ready_of_takeTurn neutral ready)⟩

end Turns

section Effect

variable {settings : Settings} {model : Model} {stage : Stage} {first second : ByteArray}
  {u v : View}

theorem Stage.effect_frame {below : Location} (other : ¬stage.Owns model below) :
    (stage.effect settings model first v).2 below = v below := by
  unfold Stage.effect
  split
  · rename_i name named
    exact Function.update_of_ne (fun own => other ((Stage.owns_iff named).2 own)) _ _
  · rename_i none
    obtain rfl : stage = schemas := by cases stage <;> cases none; rfl
    exact turns_frame fun m member place => other ⟨m, member, place⟩

/-- What a stage does depends on its own entries. -/
theorem Stage.effect_congr (settings : Settings) (first : ByteArray)
    (same : ∀ below, stage.Owns model below → u below = v below) :
    (stage.effect settings model first u).1 = (stage.effect settings model first v).1 ∧
      ∀ below, stage.Owns model below → (stage.effect settings model first u).2 below =
        (stage.effect settings model first v).2 below := by
  unfold Stage.effect
  split
  · rename_i name named
    have own := same _ ((Stage.owns_iff named).2 rfl)
    refine ⟨by simp only [View.act, own], fun below owns => ?_⟩
    rw [(Stage.owns_iff named).1 owns]
    simp [View.act, own]
  · rename_i none
    obtain rfl : stage = schemas := by cases stage <;> cases none; rfl
    exact turns_congr model.modules (fun m member below place => ⟨m, member, place⟩) same

theorem Stage.effect_neutral {m : SchemaModule} (member : m ∈ model.modules)
    (neutral : Neutral (View.pair v m.fileName).staged) :
    Neutral (View.pair (stage.effect settings model first v).2 m.fileName).staged := by
  by_cases own : stage = schemas
  · subst own
    exact turns_neutral model.modules neutral
  · have other : ¬stage.Owns model [stagedName m.fileName, "yang"] := fun owns =>
      own (Stage.owns_unique owns (b := schemas) ⟨m, member, .inr rfl⟩)
    rw [View.pair, Stage.effect_frame other]
    exact neutral

/-- A stage that succeeds after it has been run before, however that ended and with whatever
content, leaves what it would have left at once. -/
theorem Stage.effect_again (unslashed : model.Unslashed)
    (neutral : settings.copyPolicy = .overwrite → ∀ m ∈ model.modules,
      Neutral (View.pair v m.fileName).staged)
    (succeeds : (stage.effect settings model second (stage.effect settings model first v).2).1 =
      true) :
    stage.effect settings model second (stage.effect settings model first v).2 =
      stage.effect settings model second v := by
  cases named : stage.name? model with
  | some name => simp [Stage.effect, named, View.act, Stage.action_action]
  | none =>
    obtain rfl : stage = schemas := by cases stage <;> cases named; rfl
    exact turns_again model.modules unslashed.modules neutral succeeds

end Effect

end Compile

end ModelForge
