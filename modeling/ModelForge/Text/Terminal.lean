/-! What is left of a text for a terminal when it goes elsewhere. Control characters and the
sequences that an escape character starts are dropped; blanks and line ends stay, also inside a
sequence. A blank inside a sequence suspends it: what follows shows up to the next character that
could not be shown, and there the sequence goes on. -/
namespace ModelForge.Text.Terminal

/-- Where in a sequence a text stands. -/
inductive State where
  | ground
  /-- Inside a character, so many bytes of which are still to come. -/
  | character (bytes : Nat)
  | escape
  | escapeIntermediate
  | sequenceEntry
  | sequenceParameter
  | sequenceIntermediate
  | sequenceIgnored
  | deviceEntry
  | deviceParameter
  | deviceIntermediate
  | deviceIgnored
  | deviceString
  /-- A string that means nothing. -/
  | plainString
  /-- A string for the system around the terminal. -/
  | systemString
deriving DecidableEq, Repr

def isBlank (b : UInt8) : Bool := b == 0x20 || b == 0x9 || b == 0xa || b == 0xc || b == 0xd

def isBetween (low high b : UInt8) : Bool := low ≤ b && b ≤ high

/-- The state after the byte that starts a character outside ASCII. -/
def characterStart (b : UInt8) : Option State :=
  if isBetween 0xc2 0xdf b then some (.character 1)
  else if isBetween 0xe0 0xef b then some (.character 2)
  else if isBetween 0xf0 0xf4 b then some (.character 3)
  else none

/-- The state that a byte leads to. -/
def State.next (state : State) (b : UInt8) : State :=
  if b = 0x18 ∨ b = 0x1a then .ground
  else if b = 0x1b then .escape
  else match state with
  | ground => (characterStart b).getD ground
  | character 1 => ground
  | character n => character (n - 1)
  | escape =>
    if isBetween 0x20 0x2f b then escapeIntermediate
    else if b = 0x5b then sequenceEntry
    else if b = 0x5d then systemString
    else if b = 0x50 then deviceEntry
    else if b = 0x58 ∨ b = 0x5e ∨ b = 0x5f then plainString
    else if isBetween 0x30 0x7e b then ground
    else escape
  | escapeIntermediate => if isBetween 0x30 0x7e b then ground else escapeIntermediate
  | sequenceEntry =>
    if isBetween 0x20 0x2f b then sequenceIntermediate
    else if isBetween 0x30 0x3f b then sequenceParameter
    else if isBetween 0x40 0x7e b then ground
    else sequenceEntry
  | sequenceParameter =>
    if isBetween 0x20 0x2f b then sequenceIntermediate
    else if isBetween 0x3c 0x3f b then sequenceIgnored
    else if isBetween 0x40 0x7e b then ground
    else sequenceParameter
  | sequenceIntermediate =>
    if isBetween 0x30 0x3f b then sequenceIgnored
    else if isBetween 0x40 0x7e b then ground
    else sequenceIntermediate
  | sequenceIgnored => if isBetween 0x40 0x7e b then ground else sequenceIgnored
  | deviceEntry =>
    if isBetween 0x20 0x2f b then deviceIntermediate
    else if b = 0x3a then deviceIgnored
    else if isBetween 0x30 0x3f b then deviceParameter
    else if isBetween 0x40 0x7e b then deviceString
    else deviceEntry
  | deviceParameter =>
    if isBetween 0x20 0x2f b then deviceIntermediate
    else if b = 0x3a ∨ isBetween 0x3c 0x3f b then deviceIgnored
    else if isBetween 0x40 0x7e b then deviceString
    else deviceParameter
  | deviceIntermediate =>
    if isBetween 0x30 0x3f b then deviceIgnored
    else if isBetween 0x40 0x7e b then deviceString
    else deviceIntermediate
  | deviceIgnored => if b = 0x9c then ground else deviceIgnored
  | deviceString => if b = 0x9c then ground else deviceString
  | plainString => if b = 0x9c then ground else plainString
  | systemString => if b = 0x7 then ground else systemString

/-- Whether blanks show although a sequence has started. -/
def State.showsBlanks : State → Bool
  | escape | escapeIntermediate | sequenceEntry | sequenceParameter | sequenceIntermediate
  | sequenceIgnored => true
  | _ => false

/-- Whether a byte shows in a state. -/
def State.shows (state : State) (b : UInt8) : Bool :=
  match state with
  | ground => isBlank b || isBetween 0x21 0x7e b || (characterStart b).isSome
  | character _ => true
  | other => other.showsBlanks && isBlank b && b != 0x20

/-- How far a text has been gone through. -/
structure Scan where
  state : State
  /-- Nothing has been dropped since something showed; a sequence that is suspended does not count
  then. -/
  showing : Bool
deriving DecidableEq, Repr

/-- Goes on by one byte, and says whether it shows. -/
def Scan.step (scan : Scan) (b : UInt8) : Scan × Bool :=
  if scan.showing then
    match scan.state with
    | .character n => (⟨(State.character n).next b, true⟩, true)
    | state =>
      if State.ground.shows b then
        (⟨match characterStart b with
          | some started => started
          | none => state, true⟩, true)
      else (⟨state.next b, false⟩, false)
  else (⟨scan.state.next b, scan.state.shows b⟩, scan.state.shows b)

def shownFrom (scan : Scan) : List UInt8 → List UInt8
  | [] => []
  | b :: rest =>
    let (scan, shows) := scan.step b
    if shows then b :: shownFrom scan rest else shownFrom scan rest

/-- The text without control characters and sequences. -/
def shown (s : String) : String :=
  let bytes := shownFrom ⟨.ground, false⟩ s.toUTF8.data.toList
  (String.fromUTF8? ⟨bytes.toArray⟩).getD ""

/-- What is shown is part of the text, in its order. -/
theorem shownFrom_sublist (scan : Scan) (bytes : List UInt8) :
    (shownFrom scan bytes).Sublist bytes := by
  induction bytes generalizing scan with
  | nil => exact .slnil
  | cons b rest ih =>
    unfold shownFrom
    split
    split
    · exact (ih _).cons_cons b
    · exact (ih _).cons b

end ModelForge.Text.Terminal
