import ModelForge.Proofs.Disk.Lexical
import ModelForge.Proofs.Source.Render

/-! Two disks without links that are the same along a path. The path leads to the same place on
both, and what is read there is the same. -/
namespace ModelForge

namespace Disk

variable {a b : Disk} {here : Location}

/-- Two disks hold the same on the way along a path, and where the process stands. -/
structure Agree (here : Location) (path : Path) (a b : Disk) : Prop where
  start : b.entryAt here = a.entryAt here
  way : ∀ place, here.OnTheWay path place → b.entryAt place = a.entryAt place

theorem walkWith_congr (free : a.LinkFree) {creating : Bool}
    {onLink onLink' : Location → List String → Except Fault Place} (here : Location)
    (pieces : List String)
    (same : ∀ lead, lead <+: pieces → b.entryAt (spelled here lead) = a.entryAt (spelled here lead)) :
    b.walkWith creating onLink' here pieces = a.walkWith creating onLink here pieces := by
  induction pieces generalizing here with
  | nil => rfl
  | cons piece rest ih =>
    have standing : b.entryAt here = a.entryAt here := same [] (List.nil_prefix)
    have onward : ∀ next, (∀ lead, spelled here (piece :: lead) = spelled next lead) →
        b.walkWith creating onLink' next rest = a.walkWith creating onLink next rest := by
      intro next spells
      refine ih next fun lead leading => ?_
      rw [← spells]
      exact same _ (List.cons_prefix_cons.2 ⟨rfl, leading⟩)
    rw [walkWith, walkWith, standing]
    dsimp only
    by_cases stays : piece = "" ∨ piece = "."
    · rw [onward here fun lead => by
        rcases stays with rfl | rfl <;> simp [spelled, Path.Component.ofPiece?]]
      simp only [if_pos stays]
    by_cases up : piece = ".."
    · rw [onward here.tail fun lead => by
        simp [up, spelled, Path.Component.ofPiece?, Location.step]]
      simp only [if_neg stays, if_pos up]
    have proper : piece ≠ "" ∧ piece ≠ "." ∧ piece ≠ ".." := by
      rw [not_or] at stays
      exact ⟨stays.1, stays.2, up⟩
    have next : b.entryAt (piece :: here) = a.entryAt (piece :: here) := by
      have first := same [piece] (List.cons_prefix_cons.2 ⟨rfl, List.nil_prefix⟩)
      rwa [spelled_name proper] at first
    rw [next, onward (piece :: here) fun lead => spelled_name proper here lead]
    simp only [if_neg stays, if_neg up]
    cases found : a.entryAt (piece :: here) with
    | none => rfl
    | some entry =>
      cases entry with
      | link target => exact absurd found (free _ target)
      | _ => rfl

/-- What leading stretches spell is where one starts, or a place on the way. -/
theorem spelled_lead (here : Location) {path : Path} {lead : List String} (leading : lead <+: path.pieces) :
    spelled (path.start here) lead = here ∨ here.OnTheWay path (spelled (path.start here) lead) := by
  have named := leading.filterMap Path.Component.ofPiece?
  unfold Location.OnTheWay Path.components Path.start spelled
  dsimp only
  by_cases absolute : path.isAbsolute = true
  · refine .inr ⟨.root :: lead.filterMap Path.Component.ofPiece?, by simp, ?_, ?_⟩
    · rw [if_pos absolute]
      exact List.cons_prefix_cons.2 ⟨rfl, named⟩
    · simp [Location.step, absolute]
  simp only [if_neg absolute]
  by_cases dotted : path.pieces.head? = some "."
  · refine .inr ⟨.current :: lead.filterMap Path.Component.ofPiece?, by simp, ?_, ?_⟩
    · rw [if_pos dotted]
      exact List.cons_prefix_cons.2 ⟨rfl, named⟩
    · simp [Location.step]
  · rw [if_neg dotted]
    by_cases none : lead.filterMap Path.Component.ofPiece? = []
    · exact .inl (by simp [none])
    · exact .inr ⟨_, none, named, rfl⟩

namespace Agree

variable {path : Path}

theorem spelled (agree : Agree here path a b) {lead : List String} (leading : lead <+: path.pieces) :
    b.entryAt (Disk.spelled (path.start here) lead) =
      a.entryAt (Disk.spelled (path.start here) lead) := by
  rcases spelled_lead here leading with eq | way
  · rw [eq]
    exact agree.start
  · exact agree.way _ way

theorem locate (agree : Agree here path a b) (free : a.LinkFree) :
    b.locate here path = a.locate here path := by
  have walk : b.walk false linkLimit (path.start here) path.pieces =
      a.walk false linkLimit (path.start here) path.pieces := by
    obtain ⟨_, left⟩ := walk_eq_walkWith b false linkLimit
    obtain ⟨_, right⟩ := walk_eq_walkWith a false linkLimit
    rw [left, right]
    exact walkWith_congr free _ _ fun lead leading => agree.spelled leading
  have reach : b.reach false here path = a.reach false here path := by
    unfold Disk.reach
    split
    · rfl
    · exact walk
  rw [Disk.locate, Disk.locate, reach]

theorem found (agree : Agree here path a b) (free : a.LinkFree) {location : Location}
    (located : a.locate here path = .ok location) : b.found location = a.found location := by
  have place := walk_spelled free (locate_eq_ok_iff.1 located).2
  have same := agree.spelled (List.prefix_refl path.pieces)
  rw [← place] at same
  unfold Disk.found
  rw [show b.entryAt location = a.entryAt location from same]

theorem status? (agree : Agree here path a b) (free : a.LinkFree) :
    b.status? here path = a.status? here path := by
  unfold Disk.status?
  rw [agree.locate free]
  cases located : a.locate here path with
  | error fault => rfl
  | ok location => simp only [agree.found free located]

theorem read (agree : Agree here path a b) (free : a.LinkFree) :
    b.read here path = a.read here path := by
  unfold Disk.read
  rw [agree.locate free]
  cases located : a.locate here path with
  | error fault => rfl
  | ok location => simp only [agree.found free located]

end Agree

end Disk

/-- The text that a definition makes is the same on two disks that are the same on the way to it. -/
theorem Source.renderText_agree {a b : Disk} {here : Location} {kind : Source.Kind}
    {definition : Path} (context : Source.Context) (agree : Disk.Agree here definition a b)
    (free : a.LinkFree) :
    Source.renderText b here kind definition context =
      Source.renderText a here kind definition context := by
  unfold Source.renderText Disk.isFile Disk.readText
  rw [agree.status? free, agree.read free]

end ModelForge
