/-! Finding a text in another one and putting a third in its place. -/
namespace ModelForge.Text

def occursIn (needle : List Char) : List Char → Bool
  | [] => needle.isEmpty
  | c :: rest => needle.isPrefixOf (c :: rest) || occursIn needle rest

/-- Walks over a text, `skip` characters of which belong to an occurrence already replaced. -/
def replaceFrom (first : Char) (more replacement : List Char) (skip : Nat) :
    List Char → List Char
  | [] => []
  | c :: rest =>
    match skip with
    | n + 1 => replaceFrom first more replacement n rest
    | 0 =>
      if c = first ∧ more.isPrefixOf rest then
        replacement ++ replaceFrom first more replacement more.length rest
      else c :: replaceFrom first more replacement 0 rest

/-- Occurrences are taken from the left and do not overlap. The empty text occurs before every
character and at the end. -/
def replaceAll (search replacement s : List Char) : List Char :=
  match search with
  | [] => replacement ++ s.flatMap fun c => c :: replacement
  | first :: more => replaceFrom first more replacement 0 s

/-- Walks over a text with the stretch since the last occurrence, reversed. -/
def splitFrom (first : Char) (more : List Char) (skip : Nat) (stretch : List Char) :
    List Char → List (List Char)
  | [] => [stretch.reverse]
  | c :: rest =>
    match skip with
    | n + 1 => splitFrom first more n stretch rest
    | 0 =>
      if c = first ∧ more.isPrefixOf rest then
        stretch.reverse :: splitFrom first more more.length [] rest
      else splitFrom first more 0 (c :: stretch) rest

/-- The stretches between the occurrences of a text. The empty text separates every two
characters, and the ends too. -/
def splitOn (separator s : List Char) : List (List Char) :=
  match separator with
  | [] => [] :: s.map (fun c => [c]) ++ [[]]
  | first :: more => splitFrom first more 0 [] s

def joinWith (separator : List Char) : List (List Char) → List Char
  | [] => []
  | [only] => only
  | first :: more => first ++ separator ++ joinWith separator more

end ModelForge.Text
