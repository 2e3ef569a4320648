import ModelForge.Path.Basic

/-! Paths without a disk. `normalize` cancels each `..` against the component before it,
`between` leads from one directory to another, and `Location.follow` says where a path ends when
every name on it is a directory. -/
namespace ModelForge

/-- The names from an entry up to the root, the entry's own name first. -/
abbrev Location := List String

namespace Location

/-- One component further. `..` at the root stays there. -/
def step (location : Location) : Path.Component → Location
  | .root => []
  | .current => location
  | .parent => location.tail
  | .name text => text :: location

/-- Where a path leads from a directory, read off the text alone. -/
def follow (location : Location) (path : Path) : Location :=
  path.components.foldl step location

/-- The absolute path that spells a location. -/
def path (location : Location) : Path :=
  Path.ofComponents (.root :: location.reverse.map .name)

end Location

namespace Path

/-- One more component on a normal form, whose last component stands first. A `..` takes away
whatever precedes it, and stays where nothing or only the root does. -/
def absorb (stack : List Component) : Component → List Component
  | .root => [.root]
  | .current => stack
  | .name text => .name text :: stack
  | .parent =>
    match stack with
    | [] => [.parent]
    | .root :: rest => .parent :: .root :: rest
    | _ :: rest => rest

def normalComponents (path : Path) : List Component :=
  (path.components.foldl absorb []).reverse

/-- The path with `.` dropped and `..` cancelled. -/
def normalize (path : Path) : Path := ofComponents path.normalComponents

/-- How many leading components two lists share. -/
def sharedLength : List Component → List Component → Nat
  | a :: as, b :: bs => if a = b then sharedLength as bs + 1 else 0
  | _, _ => 0

/-- The path that leads from one directory to another, `.` when they are the same. Both are
normalized first. -/
def between (source target : Path) : Path :=
  let source := source.normalComponents
  let target := target.normalComponents
  let shared := sharedLength source target
  let steps := (source.drop shared).map (fun _ => Component.parent) ++ target.drop shared
  if steps.isEmpty then ⟨"."⟩ else ofComponents steps

end Path

end ModelForge
