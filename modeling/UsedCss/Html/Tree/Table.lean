import UsedCss.Html.Tree.Body
/-!
# Rules for tables

The rules of the modes inside a table. What does not belong there goes in front of the
table by the rule of the body.
-/

namespace UsedCss.Html

namespace Builder

/-- Takes a token by the rule of the body, with content that does not belong in a table put
in front of it. -/
def foster (b : Builder) (t : Token) : Step :=
  let (b, verdict) := { b with fostering := true }.inBody t
  ({ b with fostering := false }, verdict)

/-- Closes elements until the current one is the table or encloses it. -/
def backToTable (b : Builder) : Builder := b.popUntil QName.endsTableScope

/-- Closes elements until the current one is a group of rows or encloses it. -/
def backToGroup (b : Builder) : Builder :=
  b.popUntil (·.isHtmlIn ["tbody", "tfoot", "thead", "template", "html"])

/-- Closes elements until the current one is a row or encloses it. -/
def backToRow (b : Builder) : Builder := b.popUntil (·.isHtmlIn ["tr", "template", "html"])

/-- The rule for text right in a table: it is kept until more is known about it, unless the
current element is no part of the table. -/
def charactersInTable (b : Builder) (t : Token) : Step :=
  if b.currentIs QName.isTablePart then { b with returnMode := b.mode }.again .inTableText
  else (b.report .charactersInTable).foster t

/-- The rule for a tag right in a table. -/
def tagInTable (b : Builder) (t : Tag) : Step :=
  if t.opens ["caption"] then (b.backToTable.mark.openTag t |>.enter .inCaption).done
  else if t.opens ["colgroup"] then (b.backToTable.openTag t |>.enter .inColumnGroup).done
  else if t.opens ["col"] then (b.backToTable.openImplied "colgroup").again .inColumnGroup
  else if t.opens ["tbody", "tfoot", "thead"] then
    (b.backToTable.openTag t |>.enter .inTableBody).done
  else if t.opens ["td", "th", "tr"] then (b.backToTable.openImplied "tbody").again .inTableBody
  else if t.opens ["table"] then
    let b := b.unexpected
    if b.inScope QName.endsTableScope "table" then
      let b := b.popThrough (·.isHtml "table")
      b.again b.properMode
    else b.done
  else if t.closes ["table"] then
    if b.inScope QName.endsTableScope "table" then
      (b.popThrough (·.isHtml "table")).resetMode.done
    else b.unexpected.done
  else if t.closes ["body", "caption", "col", "colgroup", "html", "tbody", "td", "tfoot", "th",
      "thead", "tr"] then b.unexpected.done
  else if t.opens ["style", "script", "template"] || t.closes ["template"] then b.headTag t
  else if t.opens ["input"] && t.isHiddenInput then (b.unexpected.insertEmpty t).closed
  else if t.opens ["form"] then
    let b := b.unexpected
    if b.hasOpen "template" || b.form.isSome then b.done
    else
      let (b, e) := b.insert (.html t.name) t.attributes
      { b with form := some e.id }.done
  else b.unexpected.foster (.tag t)

/-- The rule right in a table. -/
def inTable (b : Builder) : Token → Step
  | .null => b.charactersInTable .null
  | .text cs => b.charactersInTable (.text cs)
  | .comment => b.putComment.done
  | .tag t => b.tagInTable t
  | .eof => b.endOfPage
  | _ => b.done

/-- Puts the text kept in a table: where it stands if it is all white space, else in front of
the table. -/
def putTableText (b : Builder) : Builder :=
  let kept := b.tableText.reverse
  let b := { b with tableText := [] }
  if kept.all isSpaceText then kept.foldl (fun b _ => b.putText) b
  else kept.foldl (fun b cs => (b.foster (.text cs)).1) (b.report .textInTable)

/-- The rule in text in a table. -/
def inTableText (b : Builder) : Token → Step
  | .null => b.unexpected.done
  | .text cs => { b with tableText := cs :: b.tableText }.done
  | _ => b.putTableText.again b.returnMode

/-- The rule in a caption. -/
def inCaption (b : Builder) (t : Token) : Step :=
  match t with
  | .tag tag =>
    if tag.opens ["caption", "col", "colgroup", "tbody", "td", "tfoot", "th", "thead", "tr"] ||
        tag.closes ["table", "caption"] then
      if b.inScope QName.endsTableScope "caption" then
        let b := (b.impliedEnd.closeNamed "caption").clearToMarker
        if tag.closes ["caption"] then (b.enter .inTable).done else b.again .inTable
      else b.unexpected.done
    else if tag.closes ["body", "col", "colgroup", "html", "tbody", "td", "tfoot", "th", "thead",
        "tr"] then b.unexpected.done
    else b.inBody t
  | _ => b.inBody t

/-- The rule for what does not belong in a group of columns: it ends the group. -/
def leaveColumns (b : Builder) : Step :=
  if b.currentIs (·.isHtml "colgroup") then b.pop.again .inTable else b.unexpected.done

/-- The rule in a group of columns. -/
def inColumnGroup (b : Builder) : Token → Step
  | .text cs => if isSpaceText cs then b.putText.done else b.leaveColumns
  | .comment => b.putComment.done
  | .tag t =>
    if t.opens ["html"] then (b.repeatedHtml t).done
    else if t.opens ["col"] then (b.insertEmpty t).closed
    else if t.closes ["colgroup"] then
      if b.currentIs (·.isHtml "colgroup") then (b.pop.enter .inTable).done else b.unexpected.done
    else if t.closes ["col"] then b.unexpected.done
    else if t.opens ["template"] || t.closes ["template"] then b.headTag t
    else b.leaveColumns
  | .eof => b.endOfPage
  | _ => b.leaveColumns

/-- The rule in a group of rows. -/
def inTableBody (b : Builder) (t : Token) : Step :=
  match t with
  | .tag tag =>
    if tag.opens ["tr"] then (b.backToGroup.openTag tag |>.enter .inRow).done
    else if tag.opens ["td", "th"] then
      (b.unexpected.backToGroup.openImplied "tr").again .inRow
    else if tag.closes ["tbody", "tfoot", "thead"] then
      if b.inScope QName.endsTableScope tag.name then (b.backToGroup.pop.enter .inTable).done
      else b.unexpected.done
    else if tag.opens ["caption", "col", "colgroup", "tbody", "tfoot", "thead"] ||
        tag.closes ["table"] then
      if b.isInScope QName.endsTableScope (·.name.isHtmlIn ["table", "tbody", "tfoot"]) then
        b.backToGroup.pop.again .inTable
      else b.unexpected.done
    else if tag.closes ["body", "caption", "col", "colgroup", "html", "td", "th", "tr"] then
      b.unexpected.done
    else b.inTable t
  | _ => b.inTable t

/-- The rule in a row. -/
def inRow (b : Builder) (t : Token) : Step :=
  match t with
  | .tag tag =>
    if tag.opens ["td", "th"] then ((b.backToRow.openTag tag).mark.enter .inCell).done
    else if tag.closes ["tr"] then
      if b.inScope QName.endsTableScope "tr" then (b.backToRow.pop.enter .inTableBody).done
      else b.unexpected.done
    else if tag.opens ["caption", "col", "colgroup", "tbody", "tfoot", "thead", "tr"] ||
        tag.closes ["table"] then
      if b.inScope QName.endsTableScope "tr" then b.backToRow.pop.again .inTableBody
      else b.unexpected.done
    else if tag.closes ["tbody", "tfoot", "thead"] then
      if !b.inScope QName.endsTableScope tag.name then b.unexpected.done
      else if b.inScope QName.endsTableScope "tr" then b.backToRow.pop.again .inTableBody
      else b.done
    else if tag.closes ["body", "caption", "col", "colgroup", "html", "td", "th"] then
      b.unexpected.done
    else b.inTable t
  | _ => b.inTable t

/-- Ends the cell. -/
def closeCell (b : Builder) : Builder :=
  let b := b.impliedEnd
  let expected := b.currentIs QName.isCell
  let b := b.popThrough QName.isCell
  (if expected then b else b.report .cellNotCurrent).clearToMarker

/-- The rule in a cell. -/
def inCell (b : Builder) (t : Token) : Step :=
  match t with
  | .tag tag =>
    if tag.closes ["td", "th"] then
      if b.inScope QName.endsTableScope tag.name then
        ((b.impliedEnd.closeNamed tag.name).clearToMarker.enter .inRow).done
      else b.unexpected.done
    else if tag.opens ["caption", "col", "colgroup", "tbody", "td", "tfoot", "th", "thead",
        "tr"] then
      if b.isInScope QName.endsTableScope (·.name.isCell) then b.closeCell.again .inRow
      else b.unexpected.done
    else if tag.closes ["body", "caption", "col", "colgroup", "html"] then b.unexpected.done
    else if tag.closes ["table", "tbody", "tfoot", "thead", "tr"] then
      if b.inScope QName.endsTableScope tag.name then b.closeCell.again .inRow
      else b.unexpected.done
    else b.inBody t
  | _ => b.inBody t

end Builder

end UsedCss.Html
