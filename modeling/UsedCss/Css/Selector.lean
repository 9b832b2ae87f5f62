import UsedCss.ClassSet
import UsedCss.Text.Basic
/-!
# Classes in selectors

`classNames` lists the class names that a selector mentions, `splitSelectors` cuts a
selector list at its outer commas, and `isIncluded` decides by both whether a rule is kept.
-/

namespace UsedCss.Css

open UsedCss.Text

/-- The characters of class names: ASCII letters and digits, the underscore and the hyphen. -/
def isNameChar (c : Char) : Bool := c.isAlphanum || c == '_' || c == '-'

/-- The class names in a text in order of appearance: each maximal non-empty run of name
characters that starts right after a dot. -/
def classNames (cs : List Char) : List (List Char) :=
  match _h : cs.dropWhile (· != '.') with
  | [] => []
  | _ :: after =>
    let name := after.takeWhile isNameChar
    let rest := classNames (after.dropWhile isNameChar)
    if name.isEmpty then rest else name :: rest
termination_by cs.length
decreasing_by
  have h1 := congrArg List.length _h
  have h2 := (List.dropWhile_sublist (l := cs) (· != '.')).length_le
  have h3 := (List.dropWhile_sublist (l := after) isNameChar).length_le
  simp only [List.length_cons] at h1
  omega

/-- Where a cut through a selector list stands: how many brackets are open, the characters
of the piece so far and the pieces before it, both newest first. -/
structure SelectorCut where
  depth : Nat := 0
  piece : List Char := []
  done : List (List Char) := []

/-- One more character. A comma outside brackets ends the piece; a closing bracket too many
counts for nothing. -/
def SelectorCut.next (k : SelectorCut) (c : Char) : SelectorCut :=
  if c = '(' || c = '[' then { k with depth := k.depth + 1, piece := c :: k.piece }
  else if c = ')' || c = ']' then { k with depth := k.depth - 1, piece := c :: k.piece }
  else if c = ',' && k.depth = 0 then { k with piece := [], done := k.piece.reverse :: k.done }
  else { k with piece := c :: k.piece }

/-- All pieces in order. -/
def SelectorCut.pieces (k : SelectorCut) : List (List Char) :=
  (k.piece.reverse :: k.done).reverse

/-- The selectors of a list: the trimmed, non-empty pieces between its outer commas. -/
def splitSelectors (cs : List Char) : List (List Char) :=
  ((cs.foldl SelectorCut.next {}).pieces.map trim).filter (fun s => !s.isEmpty)

/-- Whether a selector mentions a class of the target set. -/
def mentions (target : ClassSet) (selector : List Char) : Bool :=
  (classNames selector).any fun n => target.contains (String.ofList n)

/-- Whether a rule is kept: keyframes and font faces always are, any other rule if some
selector in front of its first brace mentions a class of the target set. -/
def isIncluded (rule : List Char) (target : ClassSet) : Bool :=
  if occurs "@keyframes".toList rule || occurs "@font-face".toList rule then true
  else if !rule.contains '{' then false
  else (splitSelectors (trim (rule.takeWhile (· != '{')))).any (mentions target)

end UsedCss.Css
