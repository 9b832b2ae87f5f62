import UsedCss.Html.Tree.Foreign
/-!
# Rules for the body

`inBody` is the rule for the content of the body, which most other modes fall back on.
-/

namespace UsedCss.Html

/-- Whether a tag is for an input that is not shown. -/
def Tag.isHiddenInput (t : Tag) : Bool := (t.valueOf "type").any (·.toLower == "hidden")

namespace Builder

/-- The rule for the end of the page inside templates. -/
def endInTemplate (b : Builder) : Step :=
  if !b.hasOpen "template" then b.done
  else
    let b := b.unexpected.popThrough (·.isHtml "template")
    let b := { b.clearToMarker with templateModes := b.templateModes.tail }.resetMode
    b.again b.mode

/-- The rule for the end of the page in the body. -/
def endOfPage (b : Builder) : Step :=
  if b.templateModes.isEmpty then b.checkBodyEnd.done else b.endInTemplate

/-- The rule for another start tag of the body: it may add attributes. -/
def repeatedBody (b : Builder) (t : Tag) : Builder :=
  let b := b.unexpected
  match b.body with
  | some e =>
    if b.hasOpen "template" then b else b.keepBody.edit (·.addAttributes e.id t.attributes)
  | none => b

/-- The rule for a frameset in the body: it replaces a body that holds nothing yet. -/
def replaceBody (b : Builder) (t : Tag) : Builder :=
  let b := b.unexpected
  match b.framesetOk, b.body with
  | true, some e =>
    let b := b.edit (·.detach e.id)
    let b := { b with openElements := b.openElements.drop (b.openElements.length - 1) }
    (b.openTag t).enter .inFrameset
  | _, _ => b

/-- Opens the element of a tag that may not stand in a paragraph. -/
def openBlock (b : Builder) (t : Tag) : Builder := b.closeOpenParagraph.openTag t

/-- The rule for the start tag of a heading. -/
def openHeading (b : Builder) (t : Tag) : Builder :=
  let b := b.closeOpenParagraph
  (if b.currentIs QName.isHeading then (b.report .nestedHeadings).pop else b).openTag t

/-- The rule for the start tag of a form. -/
def openForm (b : Builder) (t : Tag) : Builder :=
  if b.form.isSome && !b.hasOpen "template" then b.report .nestedForms
  else
    let b := b.openBlock t
    if b.hasOpen "template" then b
    else { b with form := b.openElements.head?.map OpenElement.id }

/-- The rule for the start tag of an item of a list: it ends an open item of such a name,
unless a special element stands in between. -/
def openItem (b : Builder) (t : Tag) (names : List String) : Builder :=
  let ends (q : QName) : Bool := q.isSpecial && !q.isHtmlIn ["address", "div", "p"]
  let b := b.keepBody
  let b :=
    match b.openElements.find? (fun e => e.name.isHtmlIn names || ends e.name) with
    | some e =>
      if e.name.isHtmlIn names then (b.impliedEndExcept e.name.name).closeNamed e.name.name else b
    | none => b
  b.openBlock t

/-- The rule for the start tag of a button. -/
def openButton (b : Builder) (t : Tag) : Builder :=
  let b :=
    if b.inScope QName.endsScope "button" then
      (b.report .nestedButtons).impliedEnd.popThrough (·.isHtml "button")
    else b
  (b.reopen.openTag t).keepBody

/-- The rule for the start tag of a link: it ends an open one. -/
def openLink (b : Builder) (t : Tag) : Builder :=
  let b :=
    match b.formattingNamed? "a" with
    | none => b
    | some (id, _) => ((b.unexpected.adopt "a").forget id).close id
  b.reopen.openFormatting t

/-- The rule for the start tag of text without line breaks: it ends an open one. -/
def openNobr (b : Builder) (t : Tag) : Builder :=
  let b := b.reopen
  let b :=
    if b.inScope QName.endsScope "nobr" then ((b.report .nestedNobr).adopt "nobr").reopen else b
  b.openFormatting t

/-- The rule for the start tag of a select box. -/
def openSelect (b : Builder) (t : Tag) : Builder :=
  let b := (b.reopen.openTag t).keepBody
  b.enter (match b.mode with
    | .inTable | .inCaption | .inTableBody | .inRow | .inCell => .inSelectInTable
    | _ => .inSelect)

/-- The rule for the start tag of an option or a group of options. -/
def openOption (b : Builder) (t : Tag) : Builder :=
  (if b.currentIs (·.isHtml "option") then b.pop else b).reopen.openTag t

/-- The rule for the start tag of a part of a ruby text. -/
def openRuby (b : Builder) (t : Tag) : Builder :=
  let base := ["rb", "rtc"].contains t.name
  let b :=
    if b.inScope QName.endsScope "ruby" then
      if base then b.impliedEnd else b.impliedEndExcept "rtc"
    else b
  let b :=
    if b.currentIs (·.isHtmlIn (if base then ["ruby"] else ["rtc", "ruby"])) then b
    else b.unexpected
  b.openTag t

/-- The rule for the start tag of an element without content inside text. -/
def insertVoid (b : Builder) (t : Tag) : Step :=
  let b := b.reopen.insertEmpty t
  (if t.name == "input" && t.isHiddenInput then b else b.keepBody).closed

/-- Names of elements that may not stand in a paragraph. -/
def blockNames : List String :=
  ["address", "article", "aside", "blockquote", "center", "details", "dialog", "dir", "div",
    "dl", "fieldset", "figcaption", "figure", "footer", "header", "hgroup", "main", "menu",
    "nav", "ol", "p", "search", "section", "summary", "ul"]

/-- Names of formatting elements that have no rule of their own. -/
def formattingNames : List String :=
  ["b", "big", "code", "em", "font", "i", "s", "small", "strike", "strong", "tt", "u"]

/-- The rule for a start tag in the body. -/
def startInBody (b : Builder) (t : Tag) : Step :=
  let among (names : List String) : Bool := names.contains t.name
  if among blockNames then (b.openBlock t).done
  else if among formattingNames then (b.reopen.openFormatting t).done
  else if among ["a"] then (b.openLink t).done
  else if among ["li"] then (b.openItem t ["li"]).done
  else if among ["dd", "dt"] then (b.openItem t ["dd", "dt"]).done
  else if among ["h1", "h2", "h3", "h4", "h5", "h6"] then (b.openHeading t).done
  else if among headNames then b.headTag t
  else if among ["area", "br", "embed", "img", "keygen", "wbr", "input"] then b.insertVoid t
  else if among ["image"] then b.unexpected.insertVoid { t with name := "img" }
  else if among ["param", "source", "track"] then (b.insertEmpty t).closed
  else if among ["hr"] then (b.closeOpenParagraph.insertEmpty t).keepBody.closed
  else if among ["html"] then (b.repeatedHtml t).done
  else if among ["body"] then (b.repeatedBody t).done
  else if among ["frameset"] then (b.replaceBody t).done
  else if among ["pre", "listing"] then
    { (b.openBlock t).keepBody with ignoreNewline := true }.done
  else if among ["form"] then (b.openForm t).done
  else if among ["plaintext"] then (b.openBlock t, .plaintext)
  else if among ["button"] then (b.openButton t).done
  else if among ["nobr"] then (b.openNobr t).done
  else if among ["applet", "marquee", "object"] then (b.reopen.openTag t).mark.keepBody.done
  else if among ["table"] then
    (((if b.oldRules then b else b.closeOpenParagraph).openTag t).keepBody.enter .inTable).done
  else if among ["textarea"] then
    { b.keepBody with ignoreNewline := true }.openRaw t .rcdata
  else if among ["xmp"] then b.closeOpenParagraph.reopen.keepBody.openRaw t .rawtext
  else if among ["iframe"] then b.keepBody.openRaw t .rawtext
  else if among ["noembed", "noscript"] then b.openRaw t .rawtext
  else if among ["select"] then (b.openSelect t).done
  else if among ["optgroup", "option"] then (b.openOption t).done
  else if among ["rb", "rtc", "rp", "rt"] then (b.openRuby t).done
  else if among ["math"] then b.openForeign .mathml t
  else if among ["svg"] then b.openForeign .svg t
  else if among ["caption", "col", "colgroup", "frame", "head", "tbody", "td", "tfoot", "th",
      "thead", "tr"] then b.unexpected.done
  else (b.reopen.openTag t).done

/-- The rule for the end tag of a form. -/
def closeForm (b : Builder) : Builder :=
  if b.hasOpen "template" then
    if !b.inScope QName.endsScope "form" then b.report .formNotInScope
    else
      let b := b.impliedEnd
      (if b.currentIs (·.isHtml "form") then b else b.report .formNotCurrent).popThrough
        (·.isHtml "form")
  else
    match b.form with
    | none => b.report .noForm
    | some form =>
      let b := { b with form := none }
      if !b.isInScope QName.endsScope (·.id == form) then b.report .formNotInScope
      else
        let b := b.impliedEnd
        let current := b.openElements.head?.any (·.id == form)
        let b := b.close form
        if current then b else b.report .formNotCurrent

/-- The rule for the end tag of a heading. -/
def closeHeading (b : Builder) (name : String) : Builder :=
  if b.isInScope QName.endsScope (·.name.isHeading) then
    let b := b.impliedEnd
    (if b.currentIs (·.isHtml name) then b else b.report .wrongHeading).popThrough QName.isHeading
  else b.report .noHeadingToClose

/-- The rule for the end tag of an item of a list. -/
def closeItem (b : Builder) (name : String) : Builder :=
  let ends := if name == "li" then QName.endsListItemScope else QName.endsScope
  if b.inScope ends name then (b.impliedEndExcept name).closeNamed name
  else b.report .nothingToClose

/-- The rule for the end tag of an element with a scope of its own. -/
def closeScoped (b : Builder) (name : String) : Builder :=
  if b.inScope QName.endsScope name then b.impliedEnd.closeNamed name else b.unexpected

/-- The rule for an end tag in the body. -/
def endInBody (b : Builder) (t : Tag) : Step :=
  let among (names : List String) : Bool := names.contains t.name
  if among ["p"] then
    (if b.inScope QName.endsButtonScope "p" then b
      else (b.report .noParagraphToClose).openImplied "p").closeParagraph.done
  else if among blockNames || among ["button", "listing", "pre"] then (b.closeScoped t.name).done
  else if among formattingNames || among ["a", "nobr"] then (b.adopt t.name).done
  else if among ["li", "dd", "dt"] then (b.closeItem t.name).done
  else if among ["h1", "h2", "h3", "h4", "h5", "h6"] then (b.closeHeading t.name).done
  else if among ["body"] then
    if b.inScope QName.endsScope "body" then (b.checkBodyEnd.enter .afterBody).done
    else (b.report .bodyNotInScope).done
  else if among ["html"] then
    if b.inScope QName.endsScope "body" then b.checkBodyEnd.again .afterBody
    else (b.report .htmlNotInScope).done
  else if among ["form"] then b.closeForm.done
  else if among ["applet", "marquee", "object"] then
    if b.inScope QName.endsScope t.name then (b.closeScoped t.name).clearToMarker.done
    else b.unexpected.done
  else if among ["template"] then b.headTag t
  else if among ["br"] then
    b.unexpected.insertVoid { t with kind := .start, attributes := [] }
  else (b.closeOrdinary t.name).done

/-- The rule for text in the body. -/
def textInBody (b : Builder) (cs : List Char) : Builder :=
  let b := b.reopen
  (if isSpaceText cs then b else b.keepBody).putText

/-- The rule in the body. -/
def inBody (b : Builder) : Token → Step
  | .null => b.unexpected.done
  | .text cs => (b.textInBody cs).done
  | .comment => b.putComment.done
  | .tag t =>
    match t.kind with
    | .start => b.startInBody t
    | .close => b.endInBody t
  | .eof => b.endOfPage
  | _ => b.done

end Builder

end UsedCss.Html
