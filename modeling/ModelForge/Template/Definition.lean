import ModelForge.Template.Phrase
import ModelForge.Template.Trim

/-! Reading a whole definition. Text is anything up to the next `{{`, `{%` or `{#`;
bodies nest through a reader for what stands between an opening and a closing tag. -/
namespace ModelForge.Template.Definition

open ModelForge.Text (Reader)
open ModelForge.Text.Reader
open Phrase (spaces token word quotation isSpace)

/-- What a stretch of a definition stands in. Conditions around it do not matter. -/
inductive Place where
  | top
  | macroBody
  | block
  | filterSection
  | loop
deriving DecidableEq

/-- Where a stretch of a definition stands. -/
structure Surroundings where
  /-- Whether dashes have an effect. -/
  trims : Bool
  place : Place
  /-- Whether a block is around it with nothing but filters between. -/
  inBlock : Bool
  /-- Nothing at all is around it. -/
  atTop : Bool

namespace Surroundings

def top : Surroundings := ⟨true, .top, false, true⟩

/-- The branches of a condition. -/
def nested (s : Surroundings) : Surroundings := { s with atTop := false }

/-- The body of something else. -/
def inside (s : Surroundings) (place : Place) : Surroundings :=
  ⟨s.trims, place, place = .block || (place = .filterSection && s.inBlock), false⟩

def allowsBlocks (s : Surroundings) : Bool :=
  s.place = .top || s.place = .block || s.place = .filterSection

def allowsExits (s : Surroundings) : Bool := s.place = .loop

end Surroundings

def blanks : Reader Unit := do let _ ← some' isSpace

/-- A delimiter with or without its dash; says whether the dash is there. -/
def dashed (withDash without : String) : Reader Bool :=
  (do exactly withDash; pure true) <|> (do exactly without; pure false)

def tagOpening : Reader Bool := dashed "\x7b%-" "\x7b%"

def tagClosing : Reader Bool := do
  spaces
  dashed "-%\x7d" "%\x7d"

/-- A tag that starts with a keyword, with the dashes at its two ends. -/
def tagged (keyword : String) (content : Reader α) : Reader (Bool × α × Bool) := do
  let before ← tagOpening
  spaces
  exactly keyword
  let found ← content
  let after ← tagClosing
  pure (before, found, after)

def bareTag (keyword : String) : Reader (Bool × Bool) := do
  let (before, _, after) ← tagged keyword (pure ())
  pure (before, after)

/-- The tag that ends a named body; the name may be repeated in it. -/
def namedEnd (keyword : String) : Reader (Bool × Bool) := do
  let (before, _, after) ← tagged keyword (do spaces; optional word)
  pure (before, after)

/-- Text up to where something starts. -/
def plainText : List Char → List Char × List Char
  | [] => ([], [])
  | c :: rest =>
    let starts := c = '\x7b' && match rest with
      | next :: _ => next = '\x7b' || next = '%' || next = '#'
      | [] => false
    if starts then ([], c :: rest)
    else
      let (text, rest) := plainText rest
      (c :: text, rest)

def text : Reader (List Piece) := fun s =>
  match plainText s with
  | ([], _) => none
  | (found, rest) => some ([.text found], rest)

/-- Takes characters until a reader accepts what follows. -/
def takeUntil (stop : Reader α) : List Char → Option (List Char × α × List Char)
  | [] => (stop []).map fun (found, rest) => ([], found, rest)
  | c :: more =>
    match stop (c :: more) with
    | some (found, rest) => some ([], found, rest)
    | none => (takeUntil stop more).map fun (passed, found, rest) => (c :: passed, found, rest)

/-- A comment is not empty. -/
def comment : Reader (List Piece) := do
  let before ← dashed "\x7b#-" "\x7b#"
  let (passed, after) ← fun s =>
    (takeUntil (dashed "-#\x7d" "#\x7d") s).map fun (passed, after, rest) =>
      ((passed, after), rest)
  if passed.isEmpty then failure else pure [.tag before after .comment]

/-- Text between `raw` and `endraw` is copied. -/
def rawText : Reader (List Piece) := do
  let (before, innerBefore) ← bareTag "raw"
  let (text, innerAfter, after) ← fun s =>
    (takeUntil (bareTag "endraw") s).map fun (text, ends, rest) => ((text, ends), rest)
  pure [.raw before innerBefore innerAfter after text]

def nodesOf (items : List Item) : List Node :=
  items.filterMap fun
    | .node node => some node
    | _ => none

/-- The nodes of a body whose tags have the given inner dashes. -/
def body (within : Surroundings) (after before : Bool) (pieces : List Piece) : List Node :=
  nodesOf (if within.trims then Piece.trimmed after before pieces else Piece.untrimmed pieces)

section Rules

variable (depth : Nat) (inner : Surroundings → Reader (List Piece)) (within : Surroundings)

def expression : Reader Expr := Phrase.phrase depth .condition <|> Phrase.phrase depth .list

def print : Reader (List Piece) := do
  let before ← dashed "\x7b\x7b-" "\x7b\x7b"
  spaces
  let value ← expression depth
  spaces
  let after ← dashed "-\x7d\x7d" "\x7d\x7d"
  pure [.tag before after (.node (.print value))]

/-- The same block of the parent. Anywhere but in a block this is an ordinary call. -/
def superBlock : Reader (List Piece) := do
  let _ ← dashed "\x7b\x7b-" "\x7b\x7b"
  spaces
  exactly "super()"
  spaces
  let _ ← dashed "-\x7d\x7d" "\x7d\x7d"
  pure [.bare (.node .superBlock)]

def assign (keyword : String) (toTemplate : Bool) : Reader (List Piece) := do
  let (before, node, after) ← tagged keyword do
    blanks
    let name ← word
    token "="
    spaces
    let value ← expression depth
    pure (Node.assign name value toTemplate)
  pure [.tag before after (.node node)]

def insert : Reader (List Piece) := do
  let (before, node, after) ← tagged "include" do
    blanks
    let templates ← (do let one ← quotation; pure [one]) <|> (do
      exactly "["
      let many ← Phrase.separated true (do spaces; quotation)
      token "]"
      pure many)
    let ignore ← optional (do spaces; exactly "ignore"; token "missing")
    pure (Node.insert templates ignore.isSome)
  pure [.tag before after (.node node)]

def exitLoop : Reader (List Piece) := do
  let (before, after) ← bareTag "break"
  pure [.tag before after (.node .exitLoop)]

def nextRound : Reader (List Piece) := do
  let (before, after) ← bareTag "continue"
  pure [.tag before after (.node .nextRound)]

def condition : Reader Expr := do
  blanks
  Phrase.phrase depth .condition

/-- The branches of an `if` from the `elif`, `else` or `endif` on that ends the body before it.
Gives that tag's dash, the nodes to fall back on, and the last dash of all. -/
def otherwise (limit : Nat) : Reader (Bool × List Node × Bool) :=
  match limit with
  | 0 => failure
  | limit + 1 =>
    (do
      let (before, after) ← bareTag "endif"
      pure (before, [], after))
    <|> (do
      let (before, after) ← bareTag "else"
      let pieces ← inner within.nested
      let (before', after') ← bareTag "endif"
      pure (before, body within after before' pieces, after'))
    <|> (do
      let (before, test, after) ← tagged "elif" (condition depth)
      let pieces ← inner within.nested
      let (before', no, after') ← otherwise limit
      pure (before, [.branch test (body within after before' pieces) no], after'))

def branch : Reader (List Piece) := do
  let (before, test, after) ← tagged "if" (condition depth)
  let pieces ← inner within.nested
  let (before', no, after') ← fun s => otherwise depth inner within s.length s
  pure [.tag before after' (.node (.branch test (body within after before' pieces) no))]

/-- The dashes of a loop's `else` have no effect, and no dash has one in the body behind it. Of
several such bodies the last counts. -/
def loop : Reader (List Piece) := do
  let (before, (first, second, container), after) ← tagged "for" do
    blanks
    let first ← word
    let second ← optional (do exactly ","; spaces; word)
    blanks
    exactly "in"
    blanks
    let container ← Phrase.filteredSum (Phrase.phrase depth) <|> Phrase.phrase depth .list
    pure (first, second, container)
  let pieces ← inner (within.inside .loop)
  let fallbacks ← many do
    let _ ← bareTag "else"
    inner { within.inside .loop with trims := false }
  let (before', after') ← bareTag "endfor"
  let key := second.map fun _ => first
  let node := Node.loop key (second.getD first) container (body within after before' pieces)
    (nodesOf (Piece.untrimmed (fallbacks.getLastD [])))
  pure [.tag before after' (.node node)]

def filterSection : Reader (List Piece) := do
  let (before, filter, after) ← tagged "filter" do
    blanks
    Phrase.call (Phrase.phrase depth) <|> (do let name ← word; pure (.of name []))
  let pieces ← inner (within.inside .filterSection)
  let (before', after') ← bareTag "endfilter"
  pure [.tag before after' (.node (.filtered filter (body within after before' pieces)))]

def block : Reader (List Piece) := do
  let (before, name, after) ← tagged "block" (do blanks; word)
  let pieces ← inner (within.inside .block)
  let (before', after') ← namedEnd "endblock"
  pure [.tag before after' (.node (.block name (body within after before' pieces)))]

def literal : Reader Expr :=
  Expr.plain <$> ((Term.truth <$> Phrase.truth) <|> (Term.text <$> quotation)
    <|> Phrase.decimal <|> Phrase.integer)

/-- No blank stands between a parameter, the equals sign and its default. -/
def macroParameter : Reader (String × Option Expr) := do
  spaces
  let name ← word
  let default ← optional (do exactly "="; literal)
  pure (name, default)

/-- Of several parameters with one name the last counts. -/
def lastOfEach : List (String × Option Expr) → List (String × Option Expr)
  | [] => []
  | first :: rest =>
    if rest.any (·.1 = first.1) then lastOfEach rest else first :: lastOfEach rest

def macroDefinition : Reader (List Piece) := do
  let (before, (name, parameters), after) ← tagged "macro" do
    blanks
    let name ← word
    token "("
    let parameters ← Phrase.separated false macroParameter
    token ")"
    pure (name, lastOfEach parameters)
  let pieces ← inner (within.inside .macroBody)
  let (before', after') ← namedEnd "endmacro"
  pure [.tag before after'
    (.macroDefinition ⟨name, parameters, body within after before' pieces⟩)]

def onlyIf (allowed : Bool) (reader : Reader (List Piece)) : Reader (List Piece) :=
  if allowed then reader else failure

def stretch : Reader (List Piece) :=
  text <|> onlyIf within.inBlock superBlock <|> print depth <|> comment <|> rawText
    <|> branch depth inner within <|> loop depth inner within <|> assign depth "set" false
    <|> assign depth "set_global" true <|> filterSection depth inner within
    <|> onlyIf within.allowsBlocks (block inner within) <|> insert
    <|> onlyIf within.allowsExits exitLoop <|> onlyIf within.allowsExits nextRound
    <|> onlyIf within.atTop (macroDefinition inner within)

end Rules

/-- Everything up to a tag that ends a body, `nesting` bodies deep at most. -/
def stretches (depth : Nat) : Nat → Surroundings → Reader (List Piece)
  | 0, _ => failure
  | nesting + 1, within => fun s =>
    ((many (stretch depth (stretches depth nesting) within)) s).map fun (found, rest) =>
      (found.flatten, rest)

/-- A tag that stands before everything else takes the blanks around it with it. -/
def heading (content : Reader (Bool × Item × Bool)) : Reader (List Piece) := do
  spaces
  let (before, item, after) ← content
  spaces
  pure [.tag before after item]

/-- Another definition whose macros are used. -/
def library : Reader (List Piece) :=
  heading <| tagged "import" do
    blanks
    let template ← quotation
    blanks
    exactly "as"
    blanks
    let name ← word
    pure (Item.library template name)

/-- The definition this one builds on. -/
def parentTag : Reader (List Piece) :=
  heading <| tagged "extends" do
    blanks
    let template ← quotation
    pure (Item.parent template)

mutual

/-- The blocks that a node is, or holds directly in a block. -/
def blocksOf : Node → List (String × List Node)
  | .block name body => (name, body) :: blocksOfAll body
  | _ => []

def blocksOfAll : List Node → List (String × List Node)
  | [] => []
  | node :: rest => blocksOf node ++ blocksOfAll rest

end

def allDistinct : List String → Bool
  | [] => true
  | name :: rest => !rest.contains name && allDistinct rest

/-- What the items of a definition make. No two of its blocks and no two macros share a name. -/
def ofItems (items : List Item) : Option Definition :=
  let nodes : List Node := nodesOf items
  let macros : List MacroDefinition := items.filterMap fun
    | .macroDefinition definition => some definition
    | _ => none
  let libraries := items.filterMap fun
    | .library template name => some (template, name)
    | _ => none
  let parent := items.findSome? fun
    | .parent template => some template
    | _ => none
  let blocks := blocksOfAll nodes
  if allDistinct (blocks.map (·.1)) && allDistinct (macros.map MacroDefinition.name) then
    some ⟨parent, libraries, macros, blocks, nodes⟩
  else none

/-- Comments, then the other definitions that are used, then the rest. Comments before everything
else leave no trace. -/
def whole (depth nesting : Nat) : Reader (List Piece) := do
  let _ ← many comment
  let before ← many library
  let parent ← optional parentTag
  let behind ← many library
  let rest ← stretches depth nesting .top
  atEnd
  pure (before.flatten ++ parent.getD [] ++ behind.flatten ++ rest)

/-- Reads a definition, if it is well formed. -/
def parse? (source : String) : Option Definition :=
  let s := source.toList
  let brackets := s.countP fun c => c = '(' || c = '['
  let tags := s.countP (· = '%')
  match whole (2 * brackets + 2) (tags + 1) s with
  | some (pieces, _) => ofItems (Piece.trimmed false false pieces)
  | none => none

end ModelForge.Template.Definition
