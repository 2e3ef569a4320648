import Mathlib.Data.List.Sort
import ModelForge.Path.Basic

/-! The order of paths. It is a linear order of their components, so paths with different components
are sorted in one way only. -/
namespace ModelForge.Path

namespace Component

/-- Only names leave anything to show: elsewhere the ranks decide. -/
instance : Std.TransOrd Component where
  eq_swap {a b} := by
    cases a <;> cases b <;> first | exact Std.OrientedOrd.eq_swap (α := String) | rfl
  isLE_trans {a b c} ab bc := by
    cases a <;> cases b <;> cases c <;>
      first
      | exact Std.TransOrd.isLE_trans (α := String) ab bc
      | rfl
      | exact absurd (show false = true from ab) Bool.false_ne_true
      | exact absurd (show false = true from bc) Bool.false_ne_true

instance : Std.LawfulEqOrd Component where
  compare_self {a} := by
    cases a <;> first | exact Std.ReflOrd.compare_self (α := String) | rfl
  eq_of_compare {a b} same := by
    cases a <;> cases b <;>
      first | exact congrArg name (Std.LawfulEqOrd.eq_of_compare (α := String) same) | rfl | cases same

end Component

variable {a b : Path}

theorem precedes_trans (a b c : Path) (first : a.precedes b = true)
    (second : b.precedes c = true) : a.precedes c = true :=
  Std.TransOrd.isLE_trans first second

theorem precedes_total (a b : Path) : (a.precedes b || b.precedes a) = true := by
  unfold precedes compare
  rw [Std.OrientedOrd.eq_swap (a := b.components)]
  cases Ord.compare a.components b.components <;> rfl

theorem compare_self (path : Path) : path.compare path = .eq := Std.ReflOrd.compare_self

theorem lt_of_precedes (precedes : a.precedes b = true) (differ : a.components ≠ b.components) :
    a.compare b = .lt := by
  unfold Path.precedes at precedes
  cases order : a.compare b with
  | lt => rfl
  | eq => exact absurd (Std.LawfulEqOrd.eq_of_compare order) differ
  | gt =>
    rw [order] at precedes
    cases precedes

/-- Sorting puts different paths in a strict order. -/
theorem pairwise_mergeSort_lt {paths : List Path}
    (distinct : paths.Pairwise fun a b => a.components ≠ b.components) :
    (paths.mergeSort precedes).Pairwise fun a b => a.compare b = .lt := by
  have sorted : (paths.mergeSort precedes).Pairwise fun a b => a.precedes b = true :=
    List.pairwise_mergeSort precedes_trans precedes_total paths
  have distinct : (paths.mergeSort precedes).Pairwise fun a b => a.components ≠ b.components := by
    refine ((List.mergeSort_perm paths precedes).pairwise_iff ?_).2 distinct
    exact fun differ => differ.symm
  exact (sorted.and distinct).imp fun both => lt_of_precedes both.1 both.2

theorem nodup_of_lt {paths : List Path} (strict : paths.Pairwise fun a b => a.compare b = .lt) :
    paths.Nodup := by
  refine strict.imp fun {a b} less same => ?_
  rw [same, compare_self] at less
  cases less

/-- A strictly increasing list is told by its members. -/
theorem eq_of_lt {one two : List Path} (strictOne : one.Pairwise fun a b => a.compare b = .lt)
    (strictTwo : two.Pairwise fun a b => a.compare b = .lt)
    (members : ∀ path, path ∈ one ↔ path ∈ two) : one = two := by
  have same := (List.perm_ext_iff_of_nodup (nodup_of_lt strictOne) (nodup_of_lt strictTwo)).2 members
  refine same.eq_of_pairwise (fun a b _ _ less more => ?_) strictOne strictTwo
  have swapped : a.compare b = (b.compare a).swap := Std.OrientedOrd.eq_swap
  rw [less, more] at swapped
  cases swapped

end ModelForge.Path
