import Mathlib.Data.List.Forall2
import ModelForge.Proofs.Action
import ModelForge.Repository.Lookup

/-! Loading whatever a repository lists. The paths are tried one after the other, each once, up to
the first whose loading fails; that failure is the outcome, and nothing after it is tried. -/
namespace ModelForge.Repository

variable {loader : Loader}

/-- A loader that writes down which paths it is asked for. -/
def recorded (loader : Loader) (path : Path) :
    ExceptT Error (StateM (List Path)) Plugin.Handle := do
  modify (· ++ [path])
  ExceptT.mk (pure (loader path))

theorem run_recorded (path : Path) (tried : List Path) :
    (recorded loader path).run.run tried = (loader path, tried ++ [path]) := rfl

/-- Loading all paths is the loop that the first failure breaks off, with the record that such a
loop keeps. -/
theorem run_mapM_recorded (paths tried : List Path) :
    (paths.mapM (recorded loader)).run.run tried =
      ((loadAll loader paths).result, tried ++ (loadAll loader paths).tried) := by
  induction paths generalizing tried with
  | nil => simp only [List.mapM_nil, Action.run_pure, loadAll, List.append_nil]
  | cons path rest ih =>
    rw [List.mapM_cons, Action.run_bind, run_recorded]
    rcases loaded : loader path with error | handle
    · simp only [loadAll, loaded]
    · simp only [Action.run_bind, ih, loadAll, loaded, List.append_assoc, List.singleton_append]
      rcases (loadAll loader rest).result with error | handles <;> rfl

/-- Either every path is loaded, or some path is the first that cannot be. -/
theorem loadAll_cases (loader : Loader) (paths : List Path) :
    (∃ handles, List.Forall₂ (fun path handle => loader path = .ok handle) paths handles ∧
      loadAll loader paths = ⟨.ok handles, paths⟩) ∨
    ∃ before path after error, paths = before ++ path :: after ∧
      (∀ earlier ∈ before, ∃ handle, loader earlier = .ok handle) ∧
      loader path = .error error ∧
      loadAll loader paths = ⟨.error error, before ++ [path]⟩ := by
  induction paths with
  | nil => exact .inl ⟨[], .nil, rfl⟩
  | cons first rest ih =>
    rcases loaded : loader first with error | handle
    · refine .inr ⟨[], first, rest, error, rfl, by simp, loaded, ?_⟩
      simp only [loadAll, loaded]
      rfl
    rcases ih with ⟨handles, loads, all⟩ | ⟨before, path, after, error, rfl, loads, fails, upTo⟩
    · refine .inl ⟨handle :: handles, .cons loaded loads, ?_⟩
      simp only [loadAll, loaded, all]
      rfl
    · refine .inr ⟨first :: before, path, after, error, rfl, ?_, fails, ?_⟩
      · intro earlier member
        rcases List.mem_cons.1 member with rfl | member
        · exact ⟨handle, loaded⟩
        · exact loads earlier member
      · simp only [loadAll, loaded, upTo]
        rfl

/-- What is loaded from a repository, whatever the loader. If nothing can be listed, nothing is
tried and the failure is that of the listing. Otherwise the listed paths are tried in their order:
either all of them, each once, and there is one handle for each; or those up to the first that
fails, and its failure is the outcome. -/
theorem listModels_traverses (disk : Disk) (listing : Listing) (loader : Loader) (here : Location)
    (repository : Path) :
    (∃ error, artifacts disk listing here repository = .error error ∧
      listModels disk listing loader here repository = ⟨.error error, []⟩) ∨
    ∃ paths, artifacts disk listing here repository = .ok paths ∧
      (paths.mapM (recorded loader)).run.run [] =
        ((listModels disk listing loader here repository).result,
          (listModels disk listing loader here repository).tried) ∧
      ((∃ handles, List.Forall₂ (fun path handle => loader path = .ok handle) paths handles ∧
          listModels disk listing loader here repository = ⟨.ok handles, paths⟩) ∨
        ∃ before path after error, paths = before ++ path :: after ∧
          (∀ earlier ∈ before, ∃ handle, loader earlier = .ok handle) ∧
          loader path = .error error ∧
          listModels disk listing loader here repository = ⟨.error error, before ++ [path]⟩) := by
  rcases listed : artifacts disk listing here repository with error | paths
  · exact .inl ⟨error, rfl, by simp only [listModels, listed]⟩
  · have loaded : listModels disk listing loader here repository = loadAll loader paths := by
      simp only [listModels, listed]
    rw [loaded]
    exact .inr ⟨paths, rfl, run_mapM_recorded paths [], loadAll_cases loader paths⟩

end ModelForge.Repository
