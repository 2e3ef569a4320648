import ModelForge.Text.Cluster.Table

/-! The characters that a reader of a text sees. Between two code points there is a joint, and it
holds or breaks by the rules of the Unicode standard for extended grapheme clusters; a cluster is
what stands between two breaks. Nothing of a text is lost: the clusters put together give the
text again (`flatten_clusters`), and none of them is empty (`ne_nil_of_mem_clusters`). -/
namespace ModelForge.Text

/-- The class of a character that has one in the table. -/
def jointClass? (c : Char) : Option JointClass :=
  (jointRanges.find? fun (first, last, _) => first ≤ c.toNat && c.toNat ≤ last).map (·.2.2)

/-- The mark that joins two pictographs. -/
def joiner : Char := Char.ofNat 0x200d

/-- The mark that keeps two letters apart. -/
def nonJoiner : Char := Char.ofNat 0x200c

def isControl (c : Char) : Bool := c.toNat < 0x20 || jointClass? c == some .control

/-- Whether a character is a whole Hangul syllable, with or without a final part. -/
def isSyllable (c : Char) : Bool := 0xac00 ≤ c.toNat && c.toNat ≤ 0xd7a3

/-- Whether a character is a Hangul syllable without a final part. -/
def isOpenSyllable (c : Char) : Bool := isSyllable c && (c.toNat - 0xac00) % 28 == 0

def isLinker (c : Char) : Bool := linkerCodes.contains c.toNat

/-- Whether a mark may stand between a consonant and the one that it is linked to. -/
def isWithinConjunct (c : Char) : Bool :=
  c == joiner || (jointClass? c == some .extend && c != nonJoiner)

/-- What has to be known of the text before a joint. -/
structure JointContext where
  last : Char
  /-- The text ends in an odd number of flag letters. -/
  halfFlag : Bool
  /-- The text ends in a pictograph and marks that extend it. -/
  pictograph : Bool
  /-- The text ends in such a pictograph and a joiner. -/
  joined : Bool
  /-- The text ends in a consonant and marks on it. -/
  consonant : Bool
  /-- One of those marks is a linker. -/
  linked : Bool

namespace JointContext

/-- The context behind the first character of a cluster. -/
def start (c : Char) : JointContext :=
  let kind := jointClass? c
  ⟨c, kind == some .flagLetter, kind == some .pictograph, false, kind == some .consonant, false⟩

/-- The context behind one more character of a cluster. -/
def push (context : JointContext) (c : Char) : JointContext :=
  let fresh := start c
  if isWithinConjunct c then
    { last := c
      halfFlag := false
      pictograph := context.pictograph && c != joiner
      joined := context.pictograph && c == joiner
      consonant := context.consonant
      linked := context.consonant && (context.linked || isLinker c) }
  else
    { fresh with
      halfFlag := fresh.halfFlag && !context.halfFlag
      pictograph := fresh.pictograph || (context.pictograph && c == nonJoiner) }

/-- Whether the joint before a character holds. -/
def holds (context : JointContext) (c : Char) : Bool :=
  let before := jointClass? context.last
  let after := jointClass? c
  if context.last == '\r' && c == '\n' then true
  else if isControl context.last || isControl c then false
  else if c == joiner || after == some .extend || after == some .trailing then true
  else if before == some .leading then true
  else
    match before, after with
    | some .initial, some .initial | some .initial, some .vowel => true
    | some .vowel, some .vowel | some .vowel, some .final | some .final, some .final => true
    | some .flagLetter, some .flagLetter => context.halfFlag
    | some .initial, none => isSyllable c
    | none, some .vowel => isOpenSyllable context.last
    | none, some .final => isSyllable context.last
    | _, some .consonant => context.linked
    | _, some .pictograph => context.joined
    | _, _ => false

end JointContext

/-- Walks over a text with the cluster that is being built, the last character of it first. -/
def clustersFrom (context : JointContext) (cluster : List Char) : List Char → List (List Char)
  | [] => [cluster.reverse]
  | c :: rest =>
    if context.holds c then clustersFrom (context.push c) (c :: cluster) rest
    else cluster.reverse :: clustersFrom (.start c) [c] rest

def clusters : List Char → List (List Char)
  | [] => []
  | c :: rest => clustersFrom (.start c) [c] rest

theorem flatten_clustersFrom (context : JointContext) (cluster s : List Char) :
    (clustersFrom context cluster s).flatten = cluster.reverse ++ s := by
  induction s generalizing context cluster with
  | nil => simp [clustersFrom]
  | cons c rest ih =>
    unfold clustersFrom
    split <;> simp [ih]

theorem flatten_clusters (s : List Char) : (clusters s).flatten = s := by
  cases s with
  | nil => rfl
  | cons c rest => simp [clusters, flatten_clustersFrom]

theorem ne_nil_of_mem_clustersFrom {context : JointContext} {cluster s found : List Char}
    (started : cluster ≠ []) (member : found ∈ clustersFrom context cluster s) : found ≠ [] := by
  induction s generalizing context cluster with
  | nil =>
    obtain rfl := List.mem_singleton.1 member
    simpa using started
  | cons c rest ih =>
    unfold clustersFrom at member
    split at member
    · exact ih (by simp) member
    · rcases List.mem_cons.1 member with rfl | member
      · simpa using started
      · exact ih (by simp) member

theorem ne_nil_of_mem_clusters {s found : List Char} (member : found ∈ clusters s) :
    found ≠ [] := by
  cases s with
  | nil => simp [clusters] at member
  | cons c rest => exact ne_nil_of_mem_clustersFrom (by simp) member

end ModelForge.Text
