/-!
# Insertion modes

The insertion mode says which rules of tree construction the next token is for.
-/

namespace UsedCss.Html

/-- Where in a document the next token belongs. -/
inductive InsertionMode
  | initial
  | beforeHtml
  | beforeHead
  | inHead
  | afterHead
  | inBody
  | text
  | inTable
  | inTableText
  | inCaption
  | inColumnGroup
  | inTableBody
  | inRow
  | inCell
  | inSelect
  | inSelectInTable
  | inTemplate
  | afterBody
  | inFrameset
  | afterFrameset
  | afterAfterBody
  | afterAfterFrameset
deriving DecidableEq, Repr

/-- The name of a mode as error texts give it. -/
def InsertionMode.name : InsertionMode → String
  | .initial => "Initial"
  | .beforeHtml => "BeforeHtml"
  | .beforeHead => "BeforeHead"
  | .inHead => "InHead"
  | .afterHead => "AfterHead"
  | .inBody => "InBody"
  | .text => "Text"
  | .inTable => "InTable"
  | .inTableText => "InTableText"
  | .inCaption => "InCaption"
  | .inColumnGroup => "InColumnGroup"
  | .inTableBody => "InTableBody"
  | .inRow => "InRow"
  | .inCell => "InCell"
  | .inSelect => "InSelect"
  | .inSelectInTable => "InSelectInTable"
  | .inTemplate => "InTemplate"
  | .afterBody => "AfterBody"
  | .inFrameset => "InFrameset"
  | .afterFrameset => "AfterFrameset"
  | .afterAfterBody => "AfterAfterBody"
  | .afterAfterFrameset => "AfterAfterFrameset"

end UsedCss.Html
