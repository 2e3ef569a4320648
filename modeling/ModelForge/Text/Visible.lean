import ModelForge.Text.Visible.Table

/-! Texts as they are shown in messages: between quotes, with everything that could not be seen
written as an escape. -/
namespace ModelForge.Text

def isVisible (c : Char) : Bool :=
  let code := c.toNat
  if code < 0x7f then 0x20 ≤ code
  else if code = 0x7f then false
  else !invisibleRanges.any fun (first, last) => first ≤ code && code ≤ last

/-- Hexadecimal digits without zeros in front. -/
def hexText (n : Nat) : List Char := Nat.toDigits 16 n

/-- What shows a character. -/
def visible (c : Char) : List Char :=
  match c with
  | '\x00' => ['\\', '0']
  | '\t' => ['\\', 't']
  | '\r' => ['\\', 'r']
  | '\n' => ['\\', 'n']
  | '"' => ['\\', '"']
  | '\\' => ['\\', '\\']
  | other =>
    if isVisible other then [other]
    else ['\\', 'u', '\x7b'] ++ hexText other.toNat ++ ['\x7d']

def shown (s : String) : String := String.ofList ('"' :: s.toList.flatMap visible ++ ['"'])

end ModelForge.Text
