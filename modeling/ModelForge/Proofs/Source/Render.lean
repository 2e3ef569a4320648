import ModelForge.Proofs.Disk.Reach
import ModelForge.Source.Render

/-! What a definition is made into depends on nothing but the file it lies in. -/
namespace ModelForge

theorem Disk.isFile_iff {disk : Disk} {here : Location} {path : Path} :
    disk.isFile here path = true ↔ ∃ location content executable,
      disk.locate here path = .ok location ∧
        disk.entryAt location = some (.file content executable) := by
  unfold isFile status?
  constructor
  · intro isFile
    cases located : disk.locate here path with
    | error fault => simp [located] at isFile
    | ok location =>
      simp only [located, found] at isFile
      cases entry : disk.entryAt location with
      | none => simp [entry] at isFile
      | some entry' =>
        cases entry' with
        | file content executable => exact ⟨location, content, executable, rfl, entry⟩
        | _ => simp [entry] at isFile
  · rintro ⟨location, content, executable, located, entry⟩
    simp [located, found, entry]

namespace Source

variable {old new : Disk} {here : Location} {kind : Kind} {definition : Path} {context : Context}

theorem isFile_of_renderText {text : String}
    (rendered : renderText old here kind definition context = .ok text) :
    old.isFile here definition = true := by
  unfold renderText at rendered
  split at rendered
  · assumption
  · cases rendered

/-- A disk that keeps the file of a definition renders it in the same way. -/
theorem renderText_keeps (kept : Disk.Keeps here old new)
    (same : ∀ location content executable, old.locate here definition = .ok location →
      old.entryAt location = some (.file content executable) →
      new.entryAt location = some (.file content executable))
    (isFile : old.isFile here definition = true) :
    new.isFile here definition = true ∧
      renderText new here kind definition context =
        renderText old here kind definition context := by
  obtain ⟨location, content, executable, located, entry⟩ := Disk.isFile_iff.1 isFile
  have entry' := same location content executable located entry
  have located' : new.locate here definition = .ok location := by
    obtain ⟨clean, reaches⟩ := Disk.locate_eq_ok_iff.1 located
    exact Disk.locate_eq_ok_iff.2 ⟨clean, reaches.keeps kept fun found eq => by
      rw [entry] at eq
      rw [entry', eq]⟩
  have isFile' := Disk.isFile_iff.2 ⟨location, content, executable, located', entry'⟩
  refine ⟨isFile', ?_⟩
  unfold renderText
  rw [isFile, isFile']
  simp [Disk.readText, Disk.read, Disk.found, located, located', entry, entry']

end Source

end ModelForge
