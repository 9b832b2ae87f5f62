import UsedCss.Html.Tree.Table
/-!
# Rules of all modes

The rules of the remaining modes, `rule`, which chooses by the insertion mode, and
`inForeign` for content that is not of HTML.
-/

namespace UsedCss.Html

namespace Builder

/-- The rule in raw content. -/
def inText (b : Builder) : Token → Step
  | .text _ => b.putText.done
  | .eof => b.unexpected.pop.again b.returnMode
  | .tag t =>
    let b := b.pop.enter b.returnMode
    if t.closes ["script"] then (b, .script) else b.done
  | _ => b.done

/-- Closes the current element if it is an option, and then if it is a group of options. -/
def endOptions (b : Builder) : Builder :=
  let b := if b.currentIs (·.isHtml "option") then b.pop else b
  if b.currentIs (·.isHtml "optgroup") then b.pop else b

/-- The rule for a tag in a select box. -/
def tagInSelect (b : Builder) (t : Tag) : Step :=
  let inSelect := b.inScope QName.endsSelectScope "select"
  if t.opens ["html"] then (b.repeatedHtml t).done
  else if t.opens ["option"] then
    ((if b.currentIs (·.isHtml "option") then b.pop else b).openTag t).done
  else if t.opens ["optgroup"] then (b.endOptions.openTag t).done
  else if t.opens ["hr"] then (b.endOptions.insertEmpty t).closed
  else if t.closes ["optgroup"] then
    let b :=
      match b.openElements with
      | e :: f :: _ => if e.name.isHtml "option" && f.name.isHtml "optgroup" then b.pop else b
      | _ => b
    (if b.currentIs (·.isHtml "optgroup") then b.pop else b.unexpected).done
  else if t.closes ["option"] then
    (if b.currentIs (·.isHtml "option") then b.pop else b.unexpected).done
  else if t.opens ["select"] || t.closes ["select"] then
    let b := if t.kind = .start || !inSelect then b.unexpected else b
    (if inSelect then (b.popThrough (·.isHtml "select")).resetMode else b).done
  else if t.opens ["input", "keygen", "textarea"] then
    let b := b.unexpected
    if inSelect then
      let b := b.popThrough (·.isHtml "select")
      b.again b.properMode
    else b.done
  else if t.opens ["script", "template"] || t.closes ["template"] then b.headTag t
  else b.unexpected.done

/-- The rule in a select box. -/
def inSelect (b : Builder) : Token → Step
  | .text _ => b.putText.done
  | .comment => b.putComment.done
  | .tag t => b.tagInSelect t
  | .eof => b.endOfPage
  | _ => b.unexpected.done

/-- The rule in a select box in a table: a part of the table ends it. -/
def inSelectInTable (b : Builder) (t : Token) : Step :=
  let parts := ["caption", "table", "tbody", "tfoot", "thead", "tr", "td", "th"]
  match t with
  | .tag tag =>
    if tag.opens parts || tag.closes parts then
      let b := b.unexpected
      if tag.kind = .start || b.inScope QName.endsTableScope tag.name then
        let b := b.popThrough (·.isHtml "select")
        b.again b.properMode
      else b.done
    else b.tagInSelect tag
  | _ => b.inSelect t

/-- The rule at the start of a template's content: it decides what kind of content it is. -/
def inTemplate (b : Builder) (t : Token) : Step :=
  let goOn (mode : InsertionMode) : Step := (b.setTemplateMode mode).again mode
  match t with
  | .text _ | .comment => b.inBody t
  | .tag tag =>
    if tag.opens headNames || tag.closes ["template"] then b.headTag tag
    else if tag.opens ["caption", "colgroup", "tbody", "tfoot", "thead"] then goOn .inTable
    else if tag.opens ["col"] then goOn .inColumnGroup
    else if tag.opens ["tr"] then goOn .inTableBody
    else if tag.opens ["td", "th"] then goOn .inRow
    else if tag.kind = .start then goOn .inBody
    else b.unexpected.done
  | .eof => b.endInTemplate
  | _ => b.unexpected.done

/-- The rule for content behind the body: it reopens the body. -/
def backToBody (b : Builder) : Step := b.unexpected.again .inBody

/-- The rule behind the body. -/
def afterBody (b : Builder) (t : Token) : Step :=
  match t with
  | .text cs => if isSpaceText cs then b.inBody t else b.backToBody
  | .comment => (b.putCommentIn ((b.rootElement.map OpenElement.id).getD Document.root)).done
  | .tag tag =>
    if tag.opens ["html"] then (b.repeatedHtml tag).done
    else if tag.closes ["html"] then (b.enter .afterAfterBody).done
    else b.backToBody
  | .eof => b.done
  | _ => b.backToBody

/-- The rule behind the page. -/
def afterAfterBody (b : Builder) (t : Token) : Step :=
  match t with
  | .text cs => if isSpaceText cs then b.inBody t else b.backToBody
  | .comment => (b.putCommentIn Document.root).done
  | .tag tag => if tag.opens ["html"] then (b.repeatedHtml tag).done else b.backToBody
  | .eof => b.done
  | _ => b.backToBody

/-- The rule in a frameset. -/
def inFrameset (b : Builder) : Token → Step
  | .text cs => (if isSpaceText cs then b.putText else b.unexpected).done
  | .comment => b.putComment.done
  | .tag t =>
    if t.opens ["html"] then (b.repeatedHtml t).done
    else if t.opens ["frameset"] then (b.openTag t).done
    else if t.closes ["frameset"] then
      if b.openElements.length = 1 then b.unexpected.done
      else
        let b := b.pop
        (if b.currentIs (·.isHtml "frameset") then b else b.enter .afterFrameset).done
    else if t.opens ["frame"] then (b.insertEmpty t).closed
    else if t.opens ["noframes"] then b.headTag t
    else b.unexpected.done
  | .eof => (if b.openElements.length = 1 then b else b.unexpected).done
  | _ => b.unexpected.done

/-- The rule behind a frameset. -/
def afterFrameset (b : Builder) : Token → Step
  | .text cs => (if isSpaceText cs then b.putText else b.unexpected).done
  | .comment => b.putComment.done
  | .tag t =>
    if t.opens ["html"] then (b.repeatedHtml t).done
    else if t.closes ["html"] then (b.enter .afterAfterFrameset).done
    else if t.opens ["noframes"] then b.headTag t
    else b.unexpected.done
  | .eof => b.done
  | _ => b.unexpected.done

/-- The rule behind a page with a frameset. -/
def afterAfterFrameset (b : Builder) (t : Token) : Step :=
  match t with
  | .text cs => if isSpaceText cs then b.inBody t else b.unexpected.done
  | .comment => (b.putCommentIn Document.root).done
  | .tag tag =>
    if tag.opens ["html"] then (b.repeatedHtml tag).done
    else if tag.opens ["noframes"] then b.headTag tag
    else b.unexpected.done
  | .eof => b.done
  | _ => b.unexpected.done

/-- The rule of a mode. -/
def ruleOf (b : Builder) (mode : InsertionMode) (t : Token) : Step :=
  match mode with
  | .initial => b.initial t
  | .beforeHtml => b.beforeHtml t
  | .beforeHead => b.beforeHead t
  | .inHead => b.inHead t
  | .afterHead => b.afterHead t
  | .inBody => b.inBody t
  | .text => b.inText t
  | .inTable => b.inTable t
  | .inTableText => b.inTableText t
  | .inCaption => b.inCaption t
  | .inColumnGroup => b.inColumnGroup t
  | .inTableBody => b.inTableBody t
  | .inRow => b.inRow t
  | .inCell => b.inCell t
  | .inSelect => b.inSelect t
  | .inSelectInTable => b.inSelectInTable t
  | .inTemplate => b.inTemplate t
  | .afterBody => b.afterBody t
  | .inFrameset => b.inFrameset t
  | .afterFrameset => b.afterFrameset t
  | .afterAfterBody => b.afterAfterBody t
  | .afterAfterFrameset => b.afterAfterFrameset t

/-- The rule of the current mode. -/
def rule (b : Builder) (t : Token) : Step := b.ruleOf b.mode t

/-! ## Foreign content -/

/-- Names of start tags that end foreign content. -/
def breakoutNames : List String :=
  ["b", "big", "blockquote", "body", "br", "center", "code", "dd", "div", "dl", "dt", "em",
    "embed", "h1", "h2", "h3", "h4", "h5", "h6", "head", "hr", "i", "img", "li", "listing",
    "menu", "meta", "nobr", "ol", "p", "pre", "ruby", "s", "small", "span", "strong", "strike",
    "sub", "sup", "table", "tt", "u", "ul", "var"]

/-- Whether a tag ends foreign content. -/
def breaksOut (t : Tag) : Bool :=
  t.opens breakoutNames || t.closes ["br", "p"] ||
    (t.opens ["font"] && t.attributes.any fun a => ["color", "face", "size"].contains a.name)

/-- Whether the current element may hold HTML. -/
def holdsHtml (q : QName) : Bool := q.space = .html || q.isMathTextPoint || q.isSvgHtmlPoint

/-- The rule for a tag that ends foreign content. -/
def leaveForeign (b : Builder) (t : Tag) : Step := (b.unexpected.popUntil holdsHtml).rule (.tag t)

/-- The rule for a start tag in foreign content. -/
def startInForeign (b : Builder) (t : Tag) : Step :=
  match b.currentName with
  | some ⟨.svg, _⟩ => b.openForeign .svg { t with name := spell svgElementNames t.name }
  | some q => b.openForeign q.space t
  | none => b.done

/-- Looks for the element that an end tag in foreign content closes, among the open elements
of a list; an element of HTML on the way has the tag taken by the rule of its mode. -/
def endInForeign (b : Builder) (t : Tag) : List OpenElement → Step
  | [] | [_] => b.done
  | e :: es =>
    if e.name.space = .html then b.rule (.tag t)
    else if e.name.name.toLower == t.name then { b with openElements := es }.done
    else b.endInForeign t es

/-- The rule in foreign content. -/
def inForeign (b : Builder) : Token → Step
  | .null => b.unexpected.putText.done
  | .text cs => ((if isSpaceText cs then b else b.keepBody).putText).done
  | .comment => b.putComment.done
  | .tag t =>
    if breaksOut t then b.leaveForeign t
    else
      match t.kind with
      | .start => b.startInForeign t
      | .close =>
        match b.openElements with
        | [] | [_] => b.done
        | e :: es =>
          if e.name.name.toLower == t.name then { b with openElements := es }.done
          else b.unexpected.endInForeign t es
  | _ => b.done

/-- Whether a token is for the rule of foreign content. -/
def takesAsForeign (b : Builder) (t : Token) : Bool :=
  match b.currentName with
  | none => false
  | some q =>
    match t with
    | .eof => false
    | .text _ | .null => !holdsHtml q
    | .tag tag =>
      if tag.kind = .start then
        !(q.space = .html || q.isSvgHtmlPoint ||
          (q.isMathTextPoint && !(["mglyph", "malignmark"].contains tag.name)) ||
          (q = ⟨.mathml, "annotation-xml"⟩ && tag.name == "svg"))
      else q.space ≠ .html
    | _ => q.space ≠ .html

end Builder

end UsedCss.Html
