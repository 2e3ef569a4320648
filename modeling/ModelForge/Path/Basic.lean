import ModelForge.Text.Fields

/-! Path texts. A path keeps the text it was built from; its meaning is the list of its
components, in which repeated slashes, inner and final `.` and final slashes do not show.
Joining works on the text, comparing and taking the last name work on the components. -/
namespace ModelForge

/-- A path as it was written. -/
structure Path where
  text : String
deriving DecidableEq, Inhabited, Repr

namespace Path

inductive Component where
  | root
  | current
  | parent
  | name (text : String)
deriving DecidableEq, Repr

namespace Component

def text : Component → String
  | root => "/"
  | current => "."
  | parent => ".."
  | name text => text

/-- The root sorts first, then `.`, then `..`, then the names. -/
def rank : Component → Nat
  | root => 0
  | current => 1
  | parent => 2
  | name _ => 3

/-- Names are compared by code point, which is the order of their bytes. -/
def compare : Component → Component → Ordering
  | name a, name b => Ord.compare a b
  | a, b => Ord.compare a.rank b.rank

instance : Ord Component := ⟨Component.compare⟩

end Component

/-- The stretches between slashes, empty ones included. -/
def pieces (path : Path) : List String :=
  (Text.fields '/' path.text.toList).map String.ofList

def isAbsolute (path : Path) : Bool := path.text.toList.head? = some '/'

def isEmpty (path : Path) : Bool := path.text.toList.isEmpty

/-- What a stretch between slashes contributes to the components. -/
def Component.ofPiece? (piece : String) : Option Component :=
  if piece = "" ∨ piece = "." then none
  else if piece = ".." then some .parent
  else some (.name piece)

/-- A leading `.` counts only when nothing stands before it. -/
def components (path : Path) : List Component :=
  let named := path.pieces.filterMap Component.ofPiece?
  if path.isAbsolute then .root :: named
  else if path.pieces.head? = some "." then .current :: named
  else named

/-- An absolute second path replaces the first; joining the empty text adds a final slash. -/
def join (base extra : Path) : Path :=
  if extra.isAbsolute ∨ base.isEmpty then extra
  else if base.text.toList.getLast? = some '/' then ⟨base.text ++ extra.text⟩
  else ⟨base.text ++ "/" ++ extra.text⟩

/-- A path with nothing but a text joined to it. -/
def child (base : Path) (name : String) : Path := base.join ⟨name⟩

/-- The plainest path with the given components. -/
def ofComponents (components : List Component) : Path :=
  components.foldl (fun path component => path.child component.text) ⟨""⟩

/-- The last component, when it is a name. -/
def fileName? (path : Path) : Option String :=
  match path.components.getLast? with
  | some (.name text) => some text
  | _ => none

/-- The proper ancestors, nearest first, down to but without the empty path. Each is the next one
with one more component. -/
def ancestors (path : Path) : List Path :=
  path.components.dropLast.foldl
    (fun found component => (found.headD ⟨""⟩).child component.text :: found) []

/-- Paths are ordered by their components. -/
def compare (a b : Path) : Ordering := Ord.compare a.components b.components

def precedes (a b : Path) : Bool := (compare a b).isLE

instance : ToString Path := ⟨Path.text⟩

end Path

end ModelForge
