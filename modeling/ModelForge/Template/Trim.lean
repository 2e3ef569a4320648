import ModelForge.Template.Tree
import ModelForge.Text.Blank

/-! Dashes inside tags. A dash at the start of a tag cuts the blanks off the text right before
it, one at the end cuts them off the text right after it. Text that is only near a tag, with
another tag between, stays as it is. -/
namespace ModelForge.Template

/-- What a stretch of a definition turns out to be. -/
inductive Item where
  | node (node : Node)
  | macroDefinition (definition : MacroDefinition)
  | library (template name : String)
  | parent (template : String)
  | comment

/-- A stretch of a definition with the dashes of its outer tags. -/
inductive Piece where
  | text (s : List Char)
  | tag (dashBefore dashAfter : Bool) (item : Item)
  /-- A stretch whose dashes have no effect. -/
  | bare (item : Item)
  /-- Text that is copied. Its tags have inner dashes too. -/
  | raw (dashBefore innerBefore innerAfter dashAfter : Bool) (s : List Char)

namespace Piece

def textItem (s : List Char) : Item := .node (.text (String.ofList s))

/-- The items as they stand. -/
def untrimmed (pieces : List Piece) : List Item :=
  pieces.map fun
    | text s => textItem s
    | tag _ _ item => item
    | bare item => item
    | raw _ _ _ _ s => textItem s

/-- Cuts the blanks off the end of the last piece if it is a text. The last piece comes first. -/
def trimLast : List Piece → List Piece
  | text s :: before =>
    let kept := Text.trimRight s
    if kept.isEmpty then before else text kept :: before
  | done => done

/-- What the inner dashes leave of a copied text. -/
def trimRaw (innerBefore innerAfter : Bool) (s : List Char) : List Char :=
  let s := if innerBefore then Text.trimLeft s else s
  if innerAfter then Text.trimRight s else s

/-- Goes through the pieces with those already done, the last of them first. `afterText` says
that a text came right before, `cutNext` that the next text loses its leading blanks. -/
def trimFrom (done : List Piece) (afterText cutNext : Bool) : List Piece → List Piece
  | [] => done
  | text s :: rest =>
    if cutNext then
      let kept := Text.trimLeft s
      trimFrom (if kept.isEmpty then done else text kept :: done) true false rest
    else trimFrom (text s :: done) true false rest
  | tag before after item :: rest =>
    let done := if afterText && before then trimLast done else done
    trimFrom (tag before after item :: done) false after rest
  | bare item :: rest => trimFrom (bare item :: done) false cutNext rest
  | raw before innerBefore innerAfter after s :: rest =>
    let done := if afterText && before then trimLast done else done
    let kept := trimRaw innerBefore innerAfter s
    trimFrom (raw before innerBefore innerAfter after kept :: done) false after rest

/-- The items of a body between two tags, whose inner dashes are given. -/
def trimmed (dashAfterOpening dashBeforeClosing : Bool) (pieces : List Piece) : List Item :=
  let done := trimFrom [] false dashAfterOpening pieces
  untrimmed (if dashBeforeClosing then trimLast done else done).reverse

end Piece

end ModelForge.Template
