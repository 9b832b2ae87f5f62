import UsedCss.ClassSet
import UsedCss.Html.Tree.Construct
import UsedCss.Options
import UsedCss.Text.Basic
/-!
# Collecting the classes of pages

`collect` gathers the class names in the class attributes of a page's elements, and
`collectAll` those of several pages.
-/

namespace UsedCss

open UsedCss.Text UsedCss.Html

/-- Why the classes of a page are not collected. -/
inductive CollectError
  | inputTooLarge (size limit : Nat)
  /-- The page needed repair: the first error, and how many there are in all. -/
  | malformed (count : Nat) (first : ParseError)
deriving DecidableEq, Repr

/-- The wording of an error. -/
def CollectError.message : CollectError → String
  | .inputTooLarge size limit =>
    "HTML input is " ++ toString size ++ " bytes, above the " ++ toString limit ++ " byte limit"
  | .malformed count first =>
    "HTML input is malformed (" ++ toString count ++ " parse errors, first: " ++
      first.message ++ ")"

/-- The class names of the elements that the document's root leads to. -/
def Html.Document.classes (d : Document) : ClassSet :=
  ClassSet.ofList ((d.elements Document.root).flatMap Element.classTokens)

/-- The class names of a page. -/
def collect (html : List Char) (options : CollectOptions := {}) : Except CollectError ClassSet :=
  match options.maxBytes.brokenBy (byteSize html) with
  | some limit => .error (.inputTooLarge (byteSize html) limit)
  | none =>
    let page := parse html
    match options.strict, page.errors with
    | true, e :: es => .error (.malformed (es.length + 1) e)
    | _, _ => .ok page.document.classes

/-- The sets that were gathered from pages as one, unless the gathering failed. -/
def unite (gathered : Except CollectError (List ClassSet)) : Except CollectError ClassSet :=
  return (← gathered).foldl ClassSet.union .empty

/-- The class names of several pages together. -/
def collectAll (pages : List (List Char)) (options : CollectOptions := {}) :
    Except CollectError ClassSet :=
  unite (pages.mapM (collect · options))

end UsedCss
