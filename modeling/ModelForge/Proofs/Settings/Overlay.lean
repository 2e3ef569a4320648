import Mathlib.Data.List.Forall2
import Mathlib.Logic.Function.Basic
import ModelForge.Settings.Basic

/-! Settings with some of their fields given. A document gives a field where its key stands once
with a valid value; keys of no field may stand anywhere. What the settings become depends on what
is given and on nothing else about the document. -/
namespace ModelForge.Settings

inductive Field where
  | templatePath
  | outputPath
  | mode
  | toolchainVersion
  | copyPolicy
deriving DecidableEq, Repr

namespace Field

abbrev Value : Field → Type
  | templatePath | outputPath => Path
  | mode => Mode
  | toolchainVersion => String
  | copyPolicy => CopyPolicy

/-- The key under which a field stands in a document. -/
def key : Field → String
  | templatePath => "template_path"
  | outputPath => "output_path"
  | mode => "mode"
  | toolchainVersion => "toolchain_version"
  | copyPolicy => "copy_policy"

/-- The text that says a value. -/
def text : (field : Field) → field.Value → String
  | templatePath, path | outputPath, path => path.text
  | mode, choice => choice.text
  | toolchainVersion, version => version
  | copyPolicy, policy => policy.text

/-- Whether the values are a few names, and no free texts. -/
def isChoice : Field → Bool
  | mode | copyPolicy => true
  | _ => false

def all : List Field := [templatePath, outputPath, mode, toolchainVersion, copyPolicy]

theorem mem_all (field : Field) : field ∈ all := by cases field <;> decide

theorem key_injective : Function.Injective key := by
  intro a b same
  cases a <;> cases b <;> first | rfl | exact absurd same (by decide)

end Field

/-- Whether a key is that of a field. -/
def isKey (key : String) : Bool := Field.all.any fun field => field.key == key

theorem isKey_iff {key : String} : isKey key = true ↔ ∃ field : Field, key = field.key := by
  simp only [isKey, List.any_eq_true, beq_iff_eq]
  exact ⟨fun ⟨field, _, same⟩ => ⟨field, same.symm⟩,
    fun ⟨field, same⟩ => ⟨field, field.mem_all, same.symm⟩⟩

/-- The fields of a table are found under their keys only. -/
theorem lookup_of_isKey {V : Type} {fields : List (String × V)} {key : String}
    (keys : fields.map Prod.fst = Field.all.map Field.key) (other : isKey key = false) :
    fields.lookup key = none := by
  have differs (field : Field) : key ≠ field.key := fun same =>
    absurd (isKey_iff.2 ⟨field, same⟩) (by simp [other])
  refine List.lookup_eq_none_iff.2 fun entry member => ?_
  have inside : entry.1 ∈ Field.all.map Field.key := keys ▸ List.mem_map_of_mem member
  obtain ⟨field, -, same⟩ := List.mem_map.1 inside
  simpa [← same] using differs field

def get (settings : Settings) : (field : Field) → field.Value
  | .templatePath => settings.templatePath
  | .outputPath => settings.outputPath
  | .mode => settings.mode
  | .toolchainVersion => settings.toolchainVersion
  | .copyPolicy => settings.copyPolicy

def set (settings : Settings) : (field : Field) → field.Value → Settings
  | .templatePath, path => { settings with templatePath := path }
  | .outputPath, path => { settings with outputPath := path }
  | .mode, mode => { settings with mode }
  | .toolchainVersion, version => { settings with toolchainVersion := version }
  | .copyPolicy, policy => { settings with copyPolicy := policy }

/-- Values for some of the fields. -/
abbrev Given := (field : Field) → Option field.Value

/-- The given values, and those of `base` for the other fields. -/
def overlay (base : Settings) (given : Given) : Settings where
  templatePath := (given .templatePath).getD base.templatePath
  outputPath := (given .outputPath).getD base.outputPath
  mode := (given .mode).getD base.mode
  toolchainVersion := (given .toolchainVersion).getD base.toolchainVersion
  copyPolicy := (given .copyPolicy).getD base.copyPolicy

section Overlays

variable {base settings other : Settings} {given : Given} {field : Field} {value : field.Value}

theorem get_injective (same : ∀ field, settings.get field = other.get field) : settings = other := by
  obtain ⟨_, _, _, _, _⟩ := settings
  obtain ⟨_, _, _, _, _⟩ := other
  obtain rfl := same .templatePath
  obtain rfl := same .outputPath
  obtain rfl := same .mode
  obtain rfl := same .toolchainVersion
  obtain rfl := same .copyPolicy
  rfl

@[simp] theorem get_overlay (base : Settings) (given : Given) (field : Field) :
    (base.overlay given).get field = (given field).getD (base.get field) := by
  cases field <;> rfl

theorem get_set (base : Settings) (field : Field) (value : field.Value) :
    (base.set field value).get = Function.update base.get field value := by
  funext other
  cases field <;> cases other <;> rfl

/-- One field after the other comes to all of them. -/
theorem overlay_set (found : given field = some value) :
    (base.set field value).overlay (Function.update given field none) = base.overlay given := by
  refine get_injective fun other => ?_
  rw [get_overlay, get_overlay, get_set]
  by_cases same : other = field
  · subst same
    simp [found]
  · simp [same]

theorem overlay_nothing (nothing : ∀ field, given field = none) : base.overlay given = base := by
  refine get_injective fun field => ?_
  rw [get_overlay, nothing, Option.getD_none]

theorem overlay_get (base settings : Settings) :
    base.overlay (fun field => some (settings.get field)) = settings :=
  get_injective fun field => get_overlay base _ field

end Overlays

section Entries

variable {V : Type} {Valid : (field : Field) → V → field.Value → Prop} {entry : String × V}
  {entries others : List (String × V)} {given : Given}

/-- Entries of a document with the fields that they give. `Valid` says that something in a document
is written for a value. At a key of no field anything may stand. -/
structure Holds (Valid : (field : Field) → V → field.Value → Prop) (entries : List (String × V))
    (given : Given) : Prop where
  /-- The key of a given field stands once, at a value that is written for the given one. -/
  present : ∀ field value, given field = some value →
    ∃ written, Valid field written value ∧
      entries.filter (fun entry => entry.1 = field.key) = [(field.key, written)]
  absent : ∀ field, given field = none → ∀ entry ∈ entries, entry.1 ≠ field.key

/-- Neither the order nor the keys of no field matter. -/
theorem Holds.of_perm (holds : Holds Valid entries given)
    (same : (others.filter (isKey ·.1)).Perm (entries.filter (isKey ·.1))) :
    Holds Valid others given := by
  have known (list : List (String × V)) (field : Field) :
      list.filter (fun entry => entry.1 = field.key) =
        (list.filter (isKey ·.1)).filter fun entry => entry.1 = field.key := by
    rw [List.filter_filter]
    refine List.filter_congr fun entry _ => ?_
    by_cases own : entry.1 = field.key
    · simp [own, isKey_iff.2 ⟨field, rfl⟩]
    · simp [own]
  have agree (field : Field) : (others.filter fun entry => entry.1 = field.key).Perm
      (entries.filter fun entry => entry.1 = field.key) := by
    rw [known others, known entries]
    exact same.filter _
  refine ⟨fun field value found => ?_, fun field missing entry member own => ?_⟩
  · obtain ⟨written, valid, once⟩ := holds.present field value found
    refine ⟨written, valid, List.perm_singleton.1 ?_⟩
    rw [← once]
    exact agree field
  · have inside := (agree field).subset (List.mem_filter.2 ⟨member, by simpa using own⟩)
    exact holds.absent field missing entry (List.mem_filter.1 inside).1 own

/-- The first entry is that of a given field, or that of no field. -/
theorem Holds.cons_cases (holds : Holds Valid (entry :: entries) given) :
    (isKey entry.1 = false ∧ Holds Valid entries given) ∨
    ∃ field value, entry.1 = field.key ∧ given field = some value ∧ Valid field entry.2 value ∧
      (∀ other ∈ entries, other.1 ≠ field.key) ∧
      Holds Valid entries (Function.update given field none) := by
  cases own : isKey entry.1 with
  | false =>
    have differs (field : Field) : entry.1 ≠ field.key := fun same =>
      absurd (isKey_iff.2 ⟨field, same⟩) (by simp [own])
    refine .inl ⟨rfl, ?_, ?_⟩
    · intro field value found
      obtain ⟨written, valid, once⟩ := holds.present field value found
      rw [List.filter_cons_of_neg (by simpa using differs field)] at once
      exact ⟨written, valid, once⟩
    · exact fun field missing e member => holds.absent field missing e (List.mem_cons_of_mem _ member)
  | true =>
    obtain ⟨field, same⟩ := isKey_iff.1 own
    refine .inr ?_
    cases found : given field with
    | none => exact absurd same (holds.absent field found entry List.mem_cons_self)
    | some value =>
      obtain ⟨written, valid, once⟩ := holds.present field value found
      rw [List.filter_cons_of_pos (by simpa using same)] at once
      obtain ⟨rfl, rest⟩ := List.cons.inj once
      have gone : ∀ other ∈ entries, other.1 ≠ field.key := by simpa using List.filter_eq_nil_iff.1 rest
      refine ⟨field, value, rfl, found, valid, gone, ?_, ?_⟩
      · intro other value found
        have differs : other ≠ field := by
          rintro rfl
          simp at found
        rw [Function.update_of_ne differs] at found
        obtain ⟨written, valid, once⟩ := holds.present other value found
        have keys : field.key ≠ other.key := fun same => differs (Field.key_injective same).symm
        rw [List.filter_cons_of_neg (by simpa using keys)] at once
        exact ⟨written, valid, once⟩
      · intro other missing e member
        by_cases differs : other = field
        · exact differs ▸ gone e member
        · rw [Function.update_of_ne differs] at missing
          exact holds.absent other missing e (List.mem_cons_of_mem _ member)

/-- An entry for one value of some settings. -/
def Gives (Valid : (field : Field) → V → field.Value → Prop) (settings : Settings)
    (entry : String × V) (field : Field) : Prop :=
  entry.1 = field.key ∧ Valid field entry.2 (settings.get field)

theorem filter_of_gives {settings : Settings} {fields : List Field} (field : Field)
    (gives : List.Forall₂ (Gives Valid settings) entries fields) (distinct : fields.Nodup) :
    if field ∈ fields then ∃ written, Valid field written (settings.get field) ∧
      entries.filter (fun entry => entry.1 = field.key) = [(field.key, written)]
    else entries.filter (fun entry => entry.1 = field.key) = [] := by
  induction gives with
  | nil => simp
  | @cons entry other entries fields own _ ih =>
    obtain ⟨new, distinct⟩ := List.nodup_cons.1 distinct
    obtain ⟨key, written⟩ := entry
    obtain ⟨rfl, valid⟩ := own
    have behind := ih distinct
    by_cases same : other = field
    · subst same
      rw [if_neg new] at behind
      rw [if_pos List.mem_cons_self]
      exact ⟨written, valid, by simpa using behind⟩
    · have keys : other.key ≠ field.key := fun equal => same (Field.key_injective equal)
      simpa [keys, Ne.symm same] using behind

/-- The entries for all values. -/
theorem holds_of_gives {settings : Settings}
    (gives : List.Forall₂ (Gives Valid settings) entries Field.all) :
    Holds Valid entries fun field => some (settings.get field) := by
  refine ⟨fun field value found => ?_, fun field missing => (nomatch missing)⟩
  have once := filter_of_gives field gives (by decide)
  rw [if_pos field.mem_all] at once
  exact Option.some.inj found ▸ once

/-- No field that is given has been seen. -/
def Fresh (given : Given) (seen : List String) : Prop :=
  ∀ field, (given field).isSome = true → field.key ∉ seen

theorem Fresh.nil (given : Given) : Fresh given [] := fun _ _ => List.not_mem_nil

theorem Fresh.cons {seen : List String} (fresh : Fresh given seen) (field : Field) :
    Fresh (Function.update given field none) (field.key :: seen) := by
  intro other found member
  have differs : other ≠ field := by
    rintro rfl
    simp at found
  rw [Function.update_of_ne differs] at found
  rcases List.mem_cons.1 member with keys | member
  · exact differs (Field.key_injective keys)
  · exact fresh other found member

/-- Where nothing stands nothing is given. -/
theorem Holds.nothing (holds : Holds Valid [] given) (field : Field) : given field = none := by
  cases found : given field with
  | none => rfl
  | some value =>
    obtain ⟨written, -, once⟩ := holds.present field value found
    cases once

end Entries

end ModelForge.Settings
