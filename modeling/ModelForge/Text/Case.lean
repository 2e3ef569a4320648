import ModelForge.Text.Case.Table

/-! Upper and lower case of a whole text. A letter may become several; a capital sigma at the
end of a word becomes the final small one. -/
namespace ModelForge.Text

/-- Where a run sends a code point, if it holds it. -/
def CaseRun.image? (run : CaseRun) (code : Nat) : Option Char :=
  if run.first ≤ code ∧ code < run.first + run.count * run.step
      ∧ (code - run.first) % run.step = 0 then
    some (Char.ofNat (Int.toNat (code + run.shift)))
  else none

def mapCase (expansions : List (Nat × List Nat)) (runs : List CaseRun) (c : Char) : List Char :=
  match expansions.lookup c.toNat with
  | some codes => codes.map Char.ofNat
  | none => [(runs.findSome? (·.image? c.toNat)).getD c]

def inRanges (ranges : List (Nat × Nat)) (c : Char) : Bool :=
  ranges.any fun (first, last) => first ≤ c.toNat && c.toNat ≤ last

/-- Whether the nearest character that is not an inner mark has a case. -/
def casedComesFirst (s : List Char) : Bool :=
  match s.dropWhile (inRanges caseIgnorableRanges) with
  | [] => false
  | c :: _ => inRanges casedRanges c

/-- Walks with the characters already passed, the last of them first. -/
def lowerFrom (passed : List Char) : List Char → List Char
  | [] => []
  | c :: rest =>
    let here :=
      if c = 'Σ' then
        if casedComesFirst passed ∧ ¬ casedComesFirst rest then ['ς'] else ['σ']
      else mapCase lowerExpansions lowerRuns c
    here ++ lowerFrom (c :: passed) rest

def lower (s : List Char) : List Char := lowerFrom [] s

def upper (s : List Char) : List Char := s.flatMap (mapCase upperExpansions upperRuns)

end ModelForge.Text
