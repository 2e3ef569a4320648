import ModelForge.Proofs.Compile.Frozen
import ModelForge.Proofs.Compile.Recompile
import ModelForge.Proofs.Disk.Straight
import ModelForge.Proofs.Path.Join

/-! Every schema file holds the data of its module after a compilation that succeeds, wherever the
names of the modules lead, as long as no two of them lead to the same place. -/
namespace ModelForge

open Compile

/-- A path that ends like a schema file has such a name, and where its data are staged the same with
more behind it. -/
theorem Compile.pieces_of_schemaText {path : Path} {text : String} (schema : path.text = text ++ ".yang") :
    ∃ init last, SchemaName last ∧ path.pieces = init ++ [last] ∧
      (stagingPath path).pieces = init ++ [stagedName last] := by
  obtain ⟨front, last, -, pieces⟩ :=
    Text.fields_append_of_notMem (show '/' ∉ ".yang".toList by decide) text.toList
  obtain ⟨front', last', pieces', staged⟩ := Text.fields_append_of_notMem
    (show '/' ∉ ".config-model.tmp".toList by decide) path.text.toList
  rw [← String.toList_append, ← schema] at pieces
  obtain ⟨rfl, only⟩ := List.append_inj' (pieces.symm.trans pieces') rfl
  obtain rfl := (List.cons.inj only).1
  refine ⟨front.map String.ofList, String.ofList (last ++ ".yang".toList), ⟨last, by simp⟩, ?_, ?_⟩
  · simp [Path.pieces, pieces']
  · rw [Path.pieces, stagingPath, String.toList_append, staged]
    simp [stagedName, String.ofList_append, String.append_assoc]

namespace SchemaModule

/-- Where the file of a module lies when no link is in the way. -/
def place (root : Location) (m : SchemaModule) : Location :=
  Location.follow ("yang" :: root) ⟨m.fileName⟩

/-- Where its data are staged. -/
def stagedPlace (root : Location) (m : SchemaModule) : Location :=
  Location.follow ("yang" :: root) ⟨stagedName m.fileName⟩

theorem fileName_pieces (m : SchemaModule) : ∃ init last, SchemaName last ∧
    (Path.mk m.fileName).pieces = init ++ [last] ∧
    (Path.mk (stagedName m.fileName)).pieces = init ++ [stagedName last] :=
  @pieces_of_schemaText ⟨m.fileName⟩ m.identity.key rfl

end SchemaModule

theorem Compile.SchemaName.proper {name : String} (schema : SchemaName name) :
    name ≠ "" ∧ name ≠ "." ∧ name ≠ ".." := by
  refine ⟨?_, ?_, ?_⟩ <;>
  · rintro rfl
    exact absurd schema (by decide)

theorem Compile.stagedName_proper (name : String) :
    stagedName name ≠ "" ∧ stagedName name ≠ "." ∧ stagedName name ≠ ".." := by
  refine ⟨?_, ?_, ?_⟩ <;>
  · intro same
    have reversed := congrArg (fun text => text.toList.reverse.head?) same
    simp [stagedName] at reversed

namespace SchemaModule

theorem places_eq (root : Location) (m : SchemaModule) : ∃ last parent, SchemaName last ∧
    m.place root = last :: parent ∧ m.stagedPlace root = stagedName last :: parent := by
  obtain ⟨init, last, schema, pieces, pieces'⟩ := m.fileName_pieces
  have start : (Path.mk (stagedName m.fileName)).start ("yang" :: root) =
      (Path.mk m.fileName).start ("yang" :: root) := by
    obtain ⟨c, rest, shape⟩ := List.exists_cons_of_ne_nil fun none =>
      m.fileName_ne_empty (String.toList_inj.1 none)
    simp [Path.start, Path.isAbsolute, stagedName, shape]
  refine ⟨last, Disk.spelled ((Path.mk m.fileName).start ("yang" :: root)) init, schema, ?_, ?_⟩
  · rw [place, Disk.follow_eq_spelled, pieces, Disk.spelled_append, Disk.spelled_name schema.proper]
    rfl
  · rw [stagedPlace, Disk.follow_eq_spelled, pieces', Disk.spelled_append, start,
      Disk.spelled_name (stagedName_proper last)]
    rfl

theorem place_ne_stagedPlace (root : Location) (a b : SchemaModule) :
    a.place root ≠ b.stagedPlace root := by
  obtain ⟨last, parent, schema, eq, -⟩ := a.places_eq root
  obtain ⟨last', parent', -, -, eq'⟩ := b.places_eq root
  rw [eq, eq']
  intro same
  exact schema.ne_stagedName last' (List.cons.inj same).1

end SchemaModule

namespace Disk

variable {disk old new : Disk} {here root place : Location} {path : Path} {content : ByteArray}

/-- No link lies strictly below a place. -/
def LinkFreeBelow (disk : Disk) (root : Location) : Prop :=
  ∀ location, root.Inside location → ∀ target, disk.entryAt location ≠ some (.link target)

theorem linkFreeBelow_iff : disk.LinkFreeBelow root ↔
    ∀ listed ∈ disk.entries.toList, isLink listed.2 = true → ¬root.Inside listed.1 := by
  constructor
  · rintro free ⟨location, entry⟩ member link inside
    have found := Std.ExtTreeMap.mem_toList_iff_getElem?_eq_some.1 member
    cases entry with
    | link target =>
      cases location with
      | nil => simp [disk.rootless] at found
      | cons name parent => exact free _ inside target found
    | _ => cases link
  · intro listed location inside target found
    cases location with
    | nil => cases found
    | cons name parent =>
      exact listed (name :: parent, .link target)
        (Std.ExtTreeMap.mem_toList_iff_getElem?_eq_some.2 found) rfl inside

instance (disk : Disk) (root : Location) : Decidable (disk.LinkFreeBelow root) :=
  decidable_of_iff _ linkFreeBelow_iff.symm

/-- A path leads to a file at some place. -/
structure Stores (disk : Disk) (here : Location) (path : Path) (place : Location)
    (content : ByteArray) : Prop where
  located : disk.locate here path = .ok place
  found : ∃ executable, disk.entryAt place = some (.file content executable)

theorem Stores.changes {places : Location → Prop} (stores : old.Stores here path place content)
    (inside : old.entryAt here = some .directory) (changes : Changes places old new)
    (other : ¬places place) : new.Stores here path place content where
  located := by
    obtain ⟨clean, reaches⟩ := locate_eq_ok_iff.1 stores.located
    exact locate_eq_ok_iff.2 ⟨clean, reaches.keeps (changes.keeps inside) fun entry found =>
      (changes.frame _ other).trans found⟩
  found := changes.frame _ other ▸ stores.found

theorem Stores.read (stores : disk.Stores here path place content) :
    disk.isFile here path = true ∧ disk.read here path = .ok content := by
  obtain ⟨executable, found⟩ := stores.found
  exact ⟨isFile_iff.2 ⟨place, content, executable, stores.located, found⟩,
    by simp [Disk.read, stores.located, Disk.found, found]⟩

end Disk

namespace Compile

open Disk Stage

variable {here root : Location} {settings : Settings} {model : Model} {disk new : Disk}
  {base : Path} {m : SchemaModule} {policy : CopyPolicy}

/-- No link is in the way of the file of a module or of the place where its data are staged, and
no device lies there. -/
structure Writable (disk : Disk) (root : Location) (m : SchemaModule) : Prop where
  straight : disk.Straight ("yang" :: root) ⟨m.fileName⟩
  staged : disk.Straight ("yang" :: root) ⟨stagedName m.fileName⟩
  noDevice : ∀ kind, disk.entryAt (m.stagedPlace root) ≠ some (.device kind)

theorem Writable.changes {places : Location → Prop} (writable : Writable disk root m)
    (changes : Changes places disk new)
    (left : new.entryAt (m.stagedPlace root) = disk.entryAt (m.stagedPlace root) ∨
      new.entryAt (m.stagedPlace root) = none) : Writable new root m where
  straight := writable.straight.mono fun location target => (changes.link location target).1
  staged := writable.staged.mono fun location target => (changes.link location target).1
  noDevice kind := by
    rcases left with same | none
    · rw [same]
      exact writable.noDevice kind
    · simp [none]

/-- A path leads to a directory, and the process stands in one. -/
structure Entered (disk : Disk) (here : Location) (base : Path) (root : Location) : Prop where
  inside : disk.entryAt here = some .directory
  reaches : disk.Reaches here base root
  standing : disk.entryAt root = some .directory

theorem Entered.changes {places : Location → Prop} (entered : Entered disk here base root)
    (changes : Changes places disk new) : Entered new here base root where
  inside := changes.directory _ entered.inside
  reaches := entered.reaches.keeps (changes.keeps entered.inside) fun entry found => by
    rw [entered.standing] at found
    rw [changes.directory _ entered.standing, found]
  standing := changes.directory _ entered.standing

theorem straight_end {extra : Path} (standing : disk.entryAt root = some .directory)
    (straight : disk.Straight root extra) (target : Path) :
    disk.entryAt (root.follow extra) ≠ some (.link target) := by
  rw [follow_eq_spelled]
  exact straight.leads standing List.prefix_rfl target

theorem write_joined {extra : Path} {content : ByteArray} (entered : Entered disk here base root)
    (straight : disk.Straight root extra) (named : ∃ piece ∈ extra.pieces, piece ≠ "")
    (written : disk.write here (base.join extra) content = .ok new) :
    Changes (· = root.follow extra) disk new ∧
      ((∀ kind, disk.entryAt (root.follow extra) ≠ some (.device kind)) →
        ∃ executable, new.entryAt (root.follow extra) = some (.file content executable)) := by
  unfold Disk.write at written
  split at written
  · cases written
  rename_i place reached
  obtain ⟨eq, found⟩ := reach_join entered.reaches entered.standing straight named reached
  have notLink : ∀ target, disk.entryAt place.location ≠ some (.link target) := by
    rw [eq]
    exact straight_end entered.standing straight
  rw [← eq]
  exact store_changes found notLink written

theorem writeSchema_stored (entered : Entered disk here base ("yang" :: root))
    (writable : Writable disk root m)
    (vacant : policy = .skipExisting → disk.entryAt (m.place root) = none) {outcome : SchemaWrite}
    (wrote : writeSchema disk here policy (base.child m.fileName) m.data = (.ok outcome, new)) :
    Changes (fun location => location = m.place root ∨ location = m.stagedPlace root) disk new ∧
      new.entryAt (m.stagedPlace root) = none ∧
      new.Stores here (base.child m.fileName) (m.place root) m.data := by
  obtain ⟨init, last, schema, pieces, pieces'⟩ := m.fileName_pieces
  cases writeSchema_course wrote with
  | skipped skips present =>
    unfold pathExists status? at present
    split at present
    · rename_i location located
      obtain ⟨clean, reaches⟩ := locate_eq_ok_iff.1 located
      obtain ⟨eq, found⟩ := reach_join entered.reaches entered.standing writable.straight
        ⟨last, by simp [pieces], schema.proper.1⟩ (reaches.reach clean)
      have eq : location = m.place root := eq
      exact absurd (eq ▸ vacant skips) found
    · simp at present
  | @moved middle _ goes written renamed =>
    rw [stagingPath_child _ m.fileName_ne_empty] at written renamed
    obtain ⟨first, holds⟩ := write_joined entered writable.staged
      ⟨stagedName last, by simp [pieces'], (stagedName_proper last).1⟩ written
    obtain ⟨executable, staged⟩ := holds writable.noDevice
    have entered' := entered.changes first
    have straight := writable.straight.mono fun location target => (first.link location target).1
    have straight' := writable.staged.mono fun location target => (first.link location target).1
    obtain ⟨name, parent, name', parent', -, fromName, toName, -⟩ := rename_eq_ok renamed
    have source := reachName_join entered'.reaches entered'.standing straight' pieces'
      (stagedName_proper last).1 fromName
    have target := reachName_join entered'.reaches entered'.standing straight pieces
      schema.proper.1 toName
    change name :: parent = m.stagedPlace root at source
    change name' :: parent' = m.place root at target
    obtain ⟨second, moved, gone⟩ := rename_changes fromName toName
      (by rw [source, target]; exact (m.place_ne_stagedPlace root m).symm)
      (by rw [source]; exact straight_end entered'.standing straight')
      (by rw [target]; exact straight_end entered'.standing straight) renamed
    rw [source, target] at second moved
    rw [source] at gone
    have filed : new.entryAt (m.place root) = some (.file m.data executable) := moved.trans staged
    obtain ⟨front, shape, -⟩ := join_front entered.reaches ⟨m.fileName⟩
    have names := (names_of_plain (by rw [Path.child, shape, pieces, ← List.append_assoc])
      schema.proper.1 toName).2.keeps (second.keeps entered'.inside)
    have reaches := names.reaches (target ▸ filed) (by simp)
    rw [target] at reaches
    exact ⟨(first.mono fun _ => .inr).trans second, gone,
      locate_eq_ok_iff.2 ⟨names.clean, reaches⟩, executable, filed⟩

/-- The places at which the files of some modules and what is staged for them lie. -/
def ModulePlace (root : Location) (modules : List SchemaModule) (location : Location) : Prop :=
  ∃ m ∈ modules, location = m.place root ∨ location = m.stagedPlace root

/-- After the loop over modules whose files lie apart, each file holds what it should. -/
theorem copyModules_stored (modules : List SchemaModule) {progress final : Progress}
    (entered : Entered progress.disk here (model.schemaDirectory settings.outputPath)
      ("yang" :: root))
    (writable : ∀ m ∈ modules, Writable progress.disk root m)
    (apart : modules.Pairwise fun a b => a.place root ≠ b.place root)
    (vacant : settings.copyPolicy = .skipExisting →
      ∀ m ∈ modules, progress.disk.entryAt (m.place root) = none)
    (ran : (copyModules here settings model modules).run.run progress = (.ok (), final)) :
    Changes (ModulePlace root modules) progress.disk final.disk ∧
      ∀ m ∈ modules, final.disk.Stores here (model.schemaFile settings.outputPath m)
        (m.place root) m.data := by
  induction modules generalizing progress with
  | nil =>
    cases ran
    exact ⟨.refl _ _, by simp⟩
  | cons m rest ih =>
    obtain ⟨differ, apart⟩ := List.pairwise_cons.1 apart
    rw [run_copyModules_cons] at ran
    rcases wrote : writeSchema progress.disk here settings.copyPolicy
      (model.schemaFile settings.outputPath m) m.data with ⟨_ | outcome, disk⟩
    · rw [wrote] at ran
      cases ran
    rw [wrote] at ran
    obtain ⟨first, gone, stored⟩ := writeSchema_stored entered (writable m List.mem_cons_self)
      (fun skips => vacant skips m List.mem_cons_self) wrote
    have entered' := entered.changes first
    have writable' : ∀ other ∈ rest, Writable disk root other := by
      intro other member
      refine (writable other (List.mem_cons_of_mem _ member)).changes first ?_
      by_cases own : other.stagedPlace root = m.stagedPlace root
      · exact .inr (own ▸ gone)
      · refine .inl (first.frame _ ?_)
        rintro (same | same)
        · exact m.place_ne_stagedPlace root other same.symm
        · exact own same
    have vacant' : settings.copyPolicy = .skipExisting →
        ∀ other ∈ rest, disk.entryAt (other.place root) = none := by
      intro skips other member
      rw [first.frame, vacant skips other (List.mem_cons_of_mem _ member)]
      rintro (same | same)
      · exact differ other member same.symm
      · exact other.place_ne_stagedPlace root m same
    obtain ⟨later, stores⟩ := ih entered' writable' apart vacant' ran
    refine ⟨(first.mono ?_).trans (later.mono ?_), ?_⟩
    · exact fun location place => ⟨m, List.mem_cons_self, place⟩
    · exact fun location ⟨other, member, place⟩ => ⟨other, List.mem_cons_of_mem _ member, place⟩
    · intro other member
      rcases List.mem_cons.1 member with rfl | member
      · refine stored.changes entered'.inside later ?_
        rintro ⟨third, member, same | same⟩
        · exact differ third member same
        · exact other.place_ne_stagedPlace root third same
      · exact stores other member

/-- The places with fixed names in the directory of a model. -/
def FixedPlace (root location : Location) : Prop :=
  ∃ (stage : Stage) (place : Location), stage.fixed? = some place ∧ location = place ++ root

theorem Stage.fixed_unstaged {stage : Stage} {name : String} {within : Location}
    (fixed : stage.fixed? = some (name :: within)) (other : String) : name ≠ stagedName other := by
  have checked : ∀ stage ∈ all, ∀ place ∈ stage.fixed?, ∀ name ∈ place.head?,
      name.toList.reverse.head? ≠ some 'p' := by
    decide
  have last := checked stage (mem_all stage) _ fixed name rfl
  rintro rfl
  simp [stagedName] at last

/-- No place with a fixed name is that of a schema file or of what is staged for one. -/
theorem not_fixedPlace (root : Location) (m : SchemaModule) :
    ¬FixedPlace root (m.place root) ∧ ¬FixedPlace root (m.stagedPlace root) := by
  obtain ⟨last, parent, schema, eq, eq'⟩ := m.places_eq root
  have below : ∀ {stage : Stage} {place : Location}, stage.fixed? = some place →
      ∃ name within, place = name :: within := by
    intro stage place fixed
    cases stage <;> cases fixed <;> exact ⟨_, _, rfl⟩
  constructor
  · rintro ⟨stage, place, fixed, same⟩
    obtain ⟨name, within, rfl⟩ := below fixed
    rw [eq] at same
    obtain ⟨rfl, -⟩ := List.cons.inj same
    exact Stage.fixed_unschema fixed schema
  · rintro ⟨stage, place, fixed, same⟩
    obtain ⟨name, within, rfl⟩ := below fixed
    rw [eq'] at same
    exact Stage.fixed_unstaged fixed last (List.cons.inj same).1.symm

theorem Stage.Acts.fixedPlace {failBindings failBuild : Bool} {stage : Stage} {place : Location}
    {progress final : Progress} {result : Except Error Unit}
    (acts : stage.Acts here root settings model failBindings failBuild progress result final)
    (fixed : stage.fixed? = some place) :
    Changes (FixedPlace root) progress.disk final.disk := by
  refine acts.changes.mono ?_
  rintro _ ⟨below, owns, rfl⟩
  rcases Stage.owns_cases owns with own | ⟨rfl, -⟩ | ⟨rfl, -⟩
  · exact ⟨stage, below, own, rfl⟩
  · cases fixed
  · cases fixed

/-- Stages with fixed names change nothing else, whatever the names in the model are. -/
theorem runAll_fixed {failBindings failBuild : Bool} {progress final : Progress}
    {result : Except Error Unit} (stages : List Stage) (known : List (List String))
    (fixed : ∀ stage ∈ stages, stage.fixed?.isSome) (placed : Stage.Placed known stages)
    (sites : Sites here root settings model progress.disk known)
    (ran : (Stage.runAll here settings model (.standIn failBindings failBuild)
      stages).run.run progress = (result, final)) :
    Changes (FixedPlace root) progress.disk final.disk ∧
      (result = .ok () → Sites here root settings model final.disk (Stage.made known stages)) := by
  refine runAll_induct (fun disk => Changes (FixedPlace root) progress.disk disk) stages known
    placed sites ?_ ?_ (.refl _ _) ran
  · intro stage member before outcome after site ran
    obtain ⟨place, own⟩ := Option.isSome_iff_exists.1 (fixed stage member)
    exact Stage.fixed_acts own site ran
  · intro stage member before outcome after acts changes
    obtain ⟨place, own⟩ := Option.isSome_iff_exists.1 (fixed stage member)
    exact changes.trans (acts.fixedPlace own)

/-- The stages before the loop over the modules. -/
def Stage.early : List Stage := all.take 9

theorem Stage.made_early :
    Stage.made [[]] Stage.early = [["yang"], ["src", "plugin"], ["src"], []] := rfl

theorem Stage.placed_early : Stage.Placed [[]] Stage.early := by
  simp [Stage.Placed, Stage.early, Stage.all, Stage.within, Stage.makes, sourceWithin,
    Folder.within, Folder.name]

/-- The disk when the two directories have been ensured. -/
def prepared (here : Location) (settings : Settings) (model : Model) (disk : Disk) : Disk :=
  ((disk.ensureDirectory here settings.outputPath).2.ensureDirectory here
    (model.directory settings.outputPath)).2

/-- What keeps the schema files of a model from each other and from the library when its directory
lies at `root`. -/
structure Separate (disk : Disk) (root : Location) (model : Model) : Prop where
  unlinked : disk.LinkFreeBelow root
  writable : ∀ m ∈ model.modules, Writable disk root m
  artifact : disk.Straight root ⟨model.identity.artifactName⟩
  apart : model.modules.Pairwise fun a b => a.place root ≠ b.place root
  unbuilt : ∀ m ∈ model.modules, m.place root ≠ root.follow ⟨model.identity.artifactName⟩

theorem straight_name {name : String} (isName : Path.IsName name)
    (notLink : ∀ target, disk.entryAt (name :: root) ≠ some (.link target)) :
    disk.Straight root ⟨name⟩ := by
  have blank : (Path.mk "").components = [] := by decide
  have only : (Path.mk name).components = [.name name] := by
    simpa [Path.child, Path.join, Path.isEmpty, blank] using Path.components_child ⟨""⟩ isName
  rintro place ⟨lead, some, leading, rfl⟩
  rw [only] at leading
  rcases List.prefix_cons_iff.1 leading with rfl | ⟨rest, rfl, none⟩
  · exact absurd rfl some
  · obtain rfl := List.prefix_nil.1 none
    exact notLink

theorem follow_name (root : Location) {name : String} (isName : Path.IsName name) :
    root.follow ⟨name⟩ = name :: root := by
  have blank : root.follow ⟨""⟩ = root := rfl
  simpa [Path.child, Path.join, Path.isEmpty, blank] using root.follow_child ⟨""⟩ isName

/-- Names without slashes keep the files separate if no two files share a name. -/
theorem Separate.of_unslashed (unslashed : model.Unslashed) (unlinked : disk.LinkFreeBelow root)
    (distinct : model.modules.Pairwise fun a b => a.fileName ≠ b.fileName)
    (noDevice : ∀ m ∈ model.modules, ∀ kind,
      disk.entryAt (stagedName m.fileName :: "yang" :: root) ≠ some (.device kind)) :
    Separate disk root model := by
  have names : ∀ m ∈ model.modules, Path.IsName m.fileName := fun m member =>
    SchemaModule.isName_fileName (unslashed.modules m member)
  have schema : ∀ name, root.Inside (name :: "yang" :: root) := fun name =>
    (Location.inside_child root "yang").cons name
  have artifact := Model.isName_artifactName unslashed.identity
  refine ⟨unlinked, fun m member => ?_, straight_name artifact
    (unlinked _ (Location.inside_child root _)), ?_, fun m member => ?_⟩
  · have isStaged := isName_stagedName (names m member).unslashed
    refine ⟨straight_name (names m member) (unlinked _ (schema _)),
      straight_name isStaged (unlinked _ (schema _)), fun kind => ?_⟩
    rw [SchemaModule.stagedPlace, follow_name _ isStaged]
    exact noDevice m member kind
  · refine distinct.imp_of_mem ?_
    intro a b first second differ same
    rw [SchemaModule.place, SchemaModule.place, follow_name _ (names a first),
      follow_name _ (names b second)] at same
    exact differ (List.cons.inj same).1
  · rw [SchemaModule.place, follow_name _ (names m member), follow_name _ artifact]
    intro same
    have lengths := congrArg List.length (List.cons.inj same).2
    simp at lengths

theorem build_changes {failBindings failBuild : Bool} {progress final : Progress}
    (entered : Entered progress.disk here (model.directory settings.outputPath) root)
    (straight : progress.disk.Straight root ⟨model.identity.artifactName⟩)
    (ran : (Stage.build.run here settings model (.standIn failBindings failBuild)).run.run progress =
      (.ok (), final)) :
    Changes (· = root.follow ⟨model.identity.artifactName⟩) progress.disk final.disk := by
  have named : ∃ piece ∈ (Path.mk model.identity.artifactName).pieces, piece ≠ "" := by
    obtain ⟨piece, member, some, -⟩ := Path.exists_name_of_mem
      (show 's' ∈ model.identity.artifactName.toList by
        simp [Model.artifactName_toList, artifactMarker]) (by decide) (by decide)
    exact ⟨piece, member, some⟩
  rw [Stage.run, Run.run_perform] at ran
  obtain ⟨result, rfl⟩ := Prod.mk.inj ran
  cases failBuild with
  | true => cases result
  | false =>
    simp only [Toolchain.standIn, buildRequest, Bool.false_eq_true, if_false, Toolchain.produce]
      at result ⊢
    split at result
    · rename_i new written
      exact (write_joined entered straight named written).1
    · cases result

/-- A directory below which there is no link can be worked in. -/
theorem site_of_located {base : Path} (inside : disk.entryAt here = some .directory)
    (there : disk.isDirectory here base = true) (located : disk.locate here base = .ok root)
    (unlinked : disk.LinkFreeBelow root) : disk.Site here base root := by
  obtain ⟨location, -, reaches', found⟩ := isDirectory_iff.1 there
  obtain ⟨clean, reaches⟩ := locate_eq_ok_iff.1 located
  obtain rfl : root = location := by
    rw [Reaches, reaches] at reaches'
    cases reaches'
    rfl
  have start : disk.entryAt (base.start here) ≠ none := by
    unfold Path.start
    split
    · simp
    · simp [inside]
  have standing := (found_eq_directory_iff.1 found).resolve_left (walk_found _ _ _ start reaches)
  refine ⟨inside, clean, reaches, standing, fun below target => ?_⟩
  by_cases own : below = []
  · simp [own, standing]
  · exact unlinked _ ⟨below, own, rfl⟩ target

/-- After a compilation that succeeds every schema file holds the data of its module, if the policy
is to overwrite or none of the files was there, and the files are separate. -/
theorem schemaFiles_kept {failBindings failBuild : Bool} {made : Artifact} {final : Progress}
    (compiled : compile here settings (.standIn failBindings failBuild) model disk =
      (.ok made, final))
    (located : (prepared here settings model disk).locate here
      (model.directory settings.outputPath) = .ok root)
    (separate : Separate (prepared here settings model disk) root model)
    (vacant : settings.copyPolicy = .skipExisting → ∀ m ∈ model.modules,
      (prepared here settings model disk).entryAt (m.place root) = none) :
    ∀ m ∈ model.modules,
      final.disk.isFile here (model.schemaFile settings.outputPath m) = true ∧
      final.disk.read here (model.schemaFile settings.outputPath m) = .ok m.data := by
  obtain ⟨-, one, two, ensured, directory, stages⟩ := stages_of_compile compiled
  obtain rfl : prepared here settings model disk = two := by simp [prepared, ensured, directory]
  generalize prepared here settings model disk = two at *
  have inside : two.entryAt here = some .directory := by
    by_contra outside
    rw [runAll_outside outside] at stages
    cases stages
  have some : model.safeName ≠ "" := by simpa [Path.isEmpty] using model.isEmpty_safeName
  have there := (ensureDirectory_spec directory).2 rfl
    (Path.isEmpty_child_of_ne settings.outputPath some)
  have site := site_of_located inside there located separate.unlinked
  rw [show Stage.all = Stage.early ++ (schemas :: ([bindings] ++ [build])) from rfl,
    runAll_append] at stages
  obtain ⟨⟨⟩, first, ranFirst, stages⟩ := Run.run_bind_ok stages
  rw [Stage.runAll] at stages
  obtain ⟨⟨⟩, second, ranSecond, stages⟩ := Run.run_bind_ok stages
  rw [runAll_append] at stages
  obtain ⟨⟨⟩, third, ranThird, stages⟩ := Run.run_bind_ok stages
  rw [Stage.runAll] at stages
  obtain ⟨⟨⟩, fourth, ranFourth, stages⟩ := Run.run_bind_ok stages
  cases stages
  obtain ⟨early, sites⟩ := runAll_fixed Stage.early [[]] (by decide) Stage.placed_early
    (sites_of_site site) ranFirst
  have sites := sites rfl
  rw [Stage.made_early] at sites
  have schemaSite : first.disk.Site here (model.schemaDirectory settings.outputPath)
      ("yang" :: root) := by
    simpa [Path.within, Model.schemaDirectory] using sites ["yang"] (by simp)
  have writable : ∀ m ∈ model.modules, Writable first.disk root m := fun m member =>
    (separate.writable m member).changes early (.inl (early.frame _ (not_fixedPlace root m).2))
  have vacant' : settings.copyPolicy = .skipExisting →
      ∀ m ∈ model.modules, first.disk.entryAt (m.place root) = none := by
    intro skips m member
    rw [early.frame _ (not_fixedPlace root m).1, vacant skips m member]
  rw [Stage.run] at ranSecond
  obtain ⟨copied, stores⟩ := copyModules_stored model.modules
    ⟨schemaSite.inside, schemaSite.reaches, schemaSite.standing⟩ writable separate.apart vacant'
    ranSecond
  have sites' : Sites here root settings model second.disk
      [["yang"], ["src", "plugin"], ["src"], []] :=
    fun within member => (sites within member).changes copied
  obtain ⟨bound, -⟩ := runAll_fixed [bindings] _ (by decide) (by simp [Stage.Placed, Stage.within])
    sites' ranThird
  have rootSite : third.disk.Site here (model.directory settings.outputPath) root := by
    simpa [Path.within] using (sites' [] (by simp)).changes bound
  have straight : third.disk.Straight root ⟨model.identity.artifactName⟩ :=
    separate.artifact.mono fun location target found => (early.link _ _).1 <|
      (copied.link _ _).1 <| (bound.link _ _).1 found
  have built := build_changes ⟨rootSite.inside, rootSite.reaches, rootSite.standing⟩ straight
    ranFourth
  intro m member
  have stored := (stores m member).changes (sites' [] (by simp)).inside bound
    (not_fixedPlace root m).1
  exact (stored.changes rootSite.inside built (separate.unbuilt m member)).read

/-- The disk of the sample with `/w/o` linked to `/v`, where an older version of a schema file lies
in the directory of the model. -/
def olderDisk : Disk :=
  (((sampleDisk Source.Kind.all).ensureDirectory [] ⟨"/v/m_1/yang"⟩).2.put "o" ["w"]
    (.link ⟨"/v"⟩)).put "a@1.yang" ["yang", "m_1", "v"] (.file "old".toUTF8 false)

def twoModules : Model :=
  ⟨"m", "1", [⟨"a", "1", none, "A".toUTF8⟩, ⟨"a", "1@b", none, "B".toUTF8⟩]⟩

set_option maxRecDepth 10000 in
theorem schemaFiles_kept_sample :
    (prepared ["w"] (sampleSettings "o") twoModules olderDisk).locate ["w"]
      (twoModules.directory (sampleSettings "o").outputPath) = .ok ["m_1", "v"] ∧
    Separate (prepared ["w"] (sampleSettings "o") twoModules olderDisk) ["m_1", "v"] twoModules ∧
    ((sampleSettings "o").copyPolicy = .skipExisting → ∀ m ∈ twoModules.modules,
      (prepared ["w"] (sampleSettings "o") twoModules olderDisk).entryAt
        (m.place ["m_1", "v"]) = none) ∧
    ∀ m ∈ twoModules.modules,
      (sampleRun "o" twoModules olderDisk).2.disk.isFile ["w"]
        (twoModules.schemaFile (sampleSettings "o").outputPath m) = true ∧
      (sampleRun "o" twoModules olderDisk).2.disk.read ["w"]
        (twoModules.schemaFile (sampleSettings "o").outputPath m) = .ok m.data := by
  have accepted : twoModules.validate = .ok () := by decide
  have located : (prepared ["w"] (sampleSettings "o") twoModules olderDisk).locate ["w"]
      (twoModules.directory (sampleSettings "o").outputPath) = .ok ["m_1", "v"] := by
    decide +kernel
  have separate : Separate (prepared ["w"] (sampleSettings "o") twoModules olderDisk)
      ["m_1", "v"] twoModules := by
    refine .of_unslashed (by decide) (by decide +kernel)
      (Model.fileNames_distinct accepted (by decide)) ?_
    have absent : ∀ m ∈ twoModules.modules,
        (prepared ["w"] (sampleSettings "o") twoModules olderDisk).entryAt
          (stagedName m.fileName :: ["yang", "m_1", "v"]) = none := by
      decide +kernel
    intro m member kind
    rw [absent m member]
    simp
  have ended : summary (sampleRun "o" twoModules olderDisk).1 = .ok ⟨"m", "1", ⟨"o/m_1/m.so.1"⟩⟩ := by
    decide +kernel
  exact ⟨located, separate, by simp [sampleSettings],
    schemaFiles_kept (ran_of_summary ended) located separate (by simp [sampleSettings])⟩

/-- A run has succeeded, and something else than the given data can be read from a path. -/
def ReadsOther (path : Path) (data : ByteArray) : Except Error Artifact × Progress → Bool
  | (.ok _, final) => (final.disk.read ["w"] path).toOption != some data
  | (.error _, _) => false

/-- A compilation of an accepted model succeeds, and what can be read from one of its schema files
is not what its module holds. No schema file was there before if existing files are skipped. -/
def Loses (job : Job) (disk : Disk) (m : SchemaModule) : Prop :=
  job.model.validate = .ok () ∧ m ∈ job.model.modules ∧
    (job.settings.copyPolicy = .skipExisting → ∀ other ∈ job.model.modules,
      disk.pathExists ["w"] (job.model.schemaFile job.settings.outputPath other) = false) ∧
    ReadsOther (job.model.schemaFile job.settings.outputPath m) m.data (job.run ["w"] disk) = true

instance (job : Job) (disk : Disk) (m : SchemaModule) : Decidable (Loses job disk m) :=
  inferInstanceAs (Decidable (_ ∧ _))

/-- The sample with other modules. -/
def jobOf (modules : List SchemaModule) : Job :=
  ⟨⟨"m", "1", modules⟩, sampleSettings "o", false, false⟩

set_option maxRecDepth 10000 in
/-- Different modules may share a file name. A link may lead from the place where data are staged to
another schema file. An output path may make a directory where a schema file belongs. -/
theorem schemaFiles_kept_mixed :
    Loses (jobOf [⟨"a@b", "c", none, "A".toUTF8⟩, ⟨"a", "b@c", none, "B".toUTF8⟩])
      (sampleDisk Source.Kind.all) ⟨"a@b", "c", none, "A".toUTF8⟩ ∧
    Loses (jobOf [⟨"b", "1", none, "B".toUTF8⟩, ⟨"a", "1", none, "A".toUTF8⟩])
      (stagedDisk (.link ⟨"b@1.yang"⟩)) ⟨"b", "1", none, "B".toUTF8⟩ ∧
    Loses ⟨sampleModel, { sampleSettings "m_1/yang/a@1.yang/../../.." with
      copyPolicy := .skipExisting }, false, false⟩ (sampleDisk Source.Kind.all)
      ⟨"a", "1", none, "A".toUTF8⟩ := by
  exact ⟨by decide +kernel, by decide +kernel, by decide +kernel⟩

end Compile

end ModelForge
