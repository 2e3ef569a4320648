import ModelForge.Text.Visible

/-! What a well-formed document can say that a record does not take: a value of another kind, a
name that is not among the known ones, a field too few or too many. -/
namespace ModelForge

/-- A value as messages name it. -/
inductive Found where
  | null
  | nothing
  | truth (b : Bool)
  | integer (n : Int)
  /-- An integer of more than 64 bits. -/
  | wideInteger (n : Int)
  /-- A number with its digits. -/
  | decimal (digits : String)
  | text (s : String)
  | sequence
  | map
deriving DecidableEq, Repr

def Found.shown : Found → String
  | null => "null"
  | nothing => "unit value"
  | truth b => s!"boolean \x60{b}\x60"
  | integer n => s!"integer \x60{n}\x60"
  | wideInteger n => s!"integer \x60{n}\x60 as " ++ if n < 0 then "i128" else "u128"
  | decimal digits => s!"floating point \x60{digits}\x60"
  | text s => "string " ++ Text.shown s
  | sequence => "sequence"
  | map => "map"

inductive Mismatch where
  | invalidType (found : Found) (expected : String)
  | invalidValue (found : Found) (expected : String)
  | invalidLength (length : Nat) (expected : String)
  | unknownVariant (found : String) (known : List String)
  | missingField (name : String)
  | duplicateField (name : String)
deriving DecidableEq, Repr

namespace Mismatch

def alternatives : List String → String
  | [] => "there are no variants"
  | [only] => s!"expected \x60{only}\x60"
  | [first, second] => s!"expected \x60{first}\x60 or \x60{second}\x60"
  | many => "expected one of " ++ String.intercalate ", " (many.map fun name => s!"\x60{name}\x60")

def message : Mismatch → String
  | invalidType found expected => s!"invalid type: {found.shown}, expected {expected}"
  | invalidValue found expected => s!"invalid value: {found.shown}, expected {expected}"
  | invalidLength length expected => s!"invalid length {length}, expected {expected}"
  | unknownVariant found known => s!"unknown variant \x60{found}\x60, {alternatives known}"
  | missingField name => s!"missing field \x60{name}\x60"
  | duplicateField name => s!"duplicate field \x60{name}\x60"

end Mismatch

end ModelForge
