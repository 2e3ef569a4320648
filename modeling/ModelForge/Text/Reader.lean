/-! Readers consume the front of a text or refuse. An alternative that refuses leaves the text as
it found it. -/
namespace ModelForge.Text

abbrev Reader := StateT (List Char) Option

namespace Reader

/-- The next character, if it is of a kind. -/
def one (kind : Char → Bool) : Reader Char := fun s =>
  match s with
  | [] => none
  | c :: rest => if kind c then some (c, rest) else none

def spanned (kind : Char → Bool) : Reader (List Char) := fun s =>
  some (s.takeWhile kind, s.dropWhile kind)

/-- One or more characters of a kind. -/
def some' (kind : Char → Bool) : Reader (List Char) := fun s =>
  match s.takeWhile kind with
  | [] => none
  | found => some (found, s.dropWhile kind)

/-- An exact text. -/
def exactly (expected : String) : Reader Unit := fun s =>
  let expected := expected.toList
  if expected.isPrefixOf s then some ((), s.drop expected.length) else none

/-- Repeats a reader until it refuses, at most `limit` times. -/
def atMost (reader : Reader α) : Nat → Reader (List α)
  | 0 => pure []
  | limit + 1 => fun s =>
    match reader s with
    | none => some ([], s)
    | some (item, rest) =>
      (fun (items, rest) => (item :: items, rest)) <$> atMost reader limit rest

/-- Repeats a reader that consumes something until it refuses. -/
def many (reader : Reader α) : Reader (List α) := fun s => atMost reader s.length s

/-- The text that a reader consumes. -/
def raw (reader : Reader α) : Reader (List Char) := fun s =>
  match reader s with
  | none => none
  | some (_, rest) => some (s.take (s.length - rest.length), rest)

def atEnd : Reader Unit := fun s => if s.isEmpty then some ((), s) else none

end Reader

end ModelForge.Text
