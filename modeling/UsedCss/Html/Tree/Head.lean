import UsedCss.Html.Tree.Formatting
/-!
# Rules for the start of a page

The rules of the modes up to the body. `headTag` is the rule for the tags that belong in the
head, which other modes use for such tags too.
-/

namespace UsedCss.Html

namespace Tag

/-- Whether it is a start tag of one of those names. -/
def opens (t : Tag) (names : List String) : Bool := t.kind = .start && names.contains t.name

/-- Whether it is an end tag of one of those names. -/
def closes (t : Tag) (names : List String) : Bool := t.kind = .close && names.contains t.name

end Tag

/-- Whether text holds nothing but white space. -/
def isSpaceText (cs : List Char) : Bool := cs.all isHtmlSpace

namespace Builder

/-- Makes the outermost element. -/
def openRoot (b : Builder) (attributes : List Attribute) : Builder :=
  let (b, e) := b.create (.html "html") attributes
  (b.push e).putAt (.inside Document.root) (.node e.id)

/-- Opens the head and remembers it. -/
def openHead (b : Builder) (attributes : List Attribute) : Builder :=
  let b := b.openElement (.html "head") attributes
  { b with head := b.openElements.head? }

/-- The rule for another start tag of the outermost element: it may add attributes. -/
def repeatedHtml (b : Builder) (t : Tag) : Builder :=
  let b := b.unexpected
  if b.hasOpen "template" then b
  else
    match b.rootElement with
    | some e => b.edit (·.addAttributes e.id t.attributes)
    | none => b

/-- Whether a template becomes the shadow tree of the element that it stands in. -/
def attachesShadow (b : Builder) (t : Tag) : Bool :=
  let asks (a : Attribute) : Bool :=
    a.name == "shadowrootmode" && (a.value == "open" || a.value == "close")
  t.attributes.any asks && 1 < b.openElements.length

/-- The rule for the start tag of a template. The content of a shadow tree goes where the
template stands. -/
def openTemplate (b : Builder) (t : Tag) : Builder :=
  let shadow := b.attachesShadow t
  let b := { b.mark.keepBody with
    mode := .inTemplate, templateModes := .inTemplate :: b.templateModes }
  if shadow then b else b.openTag t

/-- The rule for the end tag of a template. -/
def closeTemplate (b : Builder) : Builder :=
  if !b.hasOpen "template" then b.unexpected
  else
    let b := (b.popWhile QName.isImpliedEndThoroughly).closeNamed "template"
    { b.clearToMarker with templateModes := b.templateModes.tail }.resetMode

/-- The names of the elements that belong in the head. -/
def headNames : List String :=
  ["base", "basefont", "bgsound", "link", "meta", "noframes", "script", "style", "template",
    "title"]

/-- The rule for a tag that belongs in the head. -/
def headTag (b : Builder) (t : Tag) : Step :=
  if t.opens ["base", "basefont", "bgsound", "link", "meta"] then (b.insertEmpty t).closed
  else if t.opens ["title"] then b.openRaw t .rcdata
  else if t.opens ["noframes", "style", "noscript"] then b.openRaw t .rawtext
  else if t.opens ["script"] then b.openRaw t .script
  else if t.opens ["template"] then (b.openTemplate t).done
  else if t.closes ["template"] then b.closeTemplate.done
  else b.done

/-- Whether an end tag counts where the elements around the content have not been opened. -/
def impliesContent (t : Tag) : Bool := t.closes ["head", "body", "html", "br"]

/-- The rule before anything has come. -/
def initial (b : Builder) : Token → Step
  | .text cs =>
    if isSpaceText cs then b.done else { b.unexpected with oldRules := true }.again .beforeHtml
  | .comment => (b.putCommentIn Document.root).done
  | _ => { b.unexpected with oldRules := true }.again .beforeHtml

/-- The rule before the outermost element. -/
def beforeHtml (b : Builder) : Token → Step
  | .comment => (b.putCommentIn Document.root).done
  | .text cs => if isSpaceText cs then b.done else (b.openRoot []).again .beforeHead
  | .tag t =>
    if t.opens ["html"] then ((b.openRoot t.attributes).enter .beforeHead).done
    else if t.kind = .close && !impliesContent t then b.unexpected.done
    else (b.openRoot []).again .beforeHead
  | _ => (b.openRoot []).again .beforeHead

/-- The rule before the head. -/
def beforeHead (b : Builder) : Token → Step
  | .text cs => if isSpaceText cs then b.done else (b.openHead []).again .inHead
  | .comment => b.putComment.done
  | .tag t =>
    if t.opens ["html"] then (b.repeatedHtml t).done
    else if t.opens ["head"] then ((b.openHead t.attributes).enter .inHead).done
    else if t.kind = .close && !impliesContent t then b.unexpected.done
    else (b.openHead []).again .inHead
  | _ => (b.openHead []).again .inHead

/-- The rule in the head. -/
def inHead (b : Builder) : Token → Step
  | .text cs => if isSpaceText cs then b.putText.done else b.pop.again .afterHead
  | .comment => b.putComment.done
  | .tag t =>
    if t.opens ["html"] then (b.repeatedHtml t).done
    else if t.opens ("noscript" :: headNames) || t.closes ["template"] then b.headTag t
    else if t.closes ["head"] then (b.pop.enter .afterHead).done
    else if t.opens ["head"] || (t.kind = .close && !t.closes ["body", "html", "br"]) then
      b.unexpected.done
    else b.pop.again .afterHead
  | _ => b.pop.again .afterHead

/-- The rule for a tag that belongs in the head and comes after it: the head is opened once
more for it. -/
def lateHeadTag (b : Builder) (t : Tag) : Step :=
  let b := b.unexpected
  match b.head with
  | none => b.headTag t
  | some head =>
    let (b, verdict) := (b.push head).headTag t
    (b.close head.id, verdict)

/-- The rule between the head and the body. -/
def afterHead (b : Builder) : Token → Step
  | .text cs =>
    if isSpaceText cs then b.putText.done else (b.openImplied "body").again .inBody
  | .comment => b.putComment.done
  | .tag t =>
    if t.opens ["html"] then (b.repeatedHtml t).done
    else if t.opens ["body"] then ((b.openTag t).keepBody.enter .inBody).done
    else if t.opens ["frameset"] then ((b.openTag t).enter .inFrameset).done
    else if t.opens headNames then b.lateHeadTag t
    else if t.closes ["template"] then b.headTag t
    else if t.opens ["head"] || (t.kind = .close && !t.closes ["body", "html", "br"]) then
      b.unexpected.done
    else (b.openImplied "body").again .inBody
  | _ => (b.openImplied "body").again .inBody

end Builder

end UsedCss.Html
