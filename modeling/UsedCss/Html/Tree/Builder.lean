import UsedCss.Html.Draft
import UsedCss.Html.Token
/-!
# The tree builder

A `Builder` is a document in the making with what tree construction has to remember: the
open elements, the formatting elements to be opened again, the insertion mode and a few
marks. Here are the questions and the small steps that the rules of all modes share.
-/

namespace UsedCss.Html

/-- An open element. -/
structure OpenElement where
  id : NodeId
  name : QName
deriving DecidableEq, Repr

/-- An entry in the list of formatting elements: a marker, or an element with the tag that
opened it. -/
inductive Formatting
  | marker
  | element (id : NodeId) (tag : Tag)
deriving DecidableEq, Repr

/-- The state of tree construction. -/
structure Builder where
  draft : Draft := {}
  mode : InsertionMode := .initial
  /-- The mode to come back to after text. -/
  returnMode : InsertionMode := .inBody
  /-- The modes of the open templates, innermost first. -/
  templateModes : List InsertionMode := []
  /-- Text in a table that has not been judged yet, newest first. -/
  tableText : List (List Char) := []
  /-- Whether a table may stand inside a paragraph. -/
  oldRules : Bool := false
  /-- The open elements, the current one first. -/
  openElements : List OpenElement := []
  /-- The formatting elements, the newest first. -/
  formatting : List Formatting := []
  head : Option OpenElement := none
  form : Option NodeId := none
  /-- Whether the body may still be replaced by a frameset. -/
  framesetOk : Bool := true
  /-- Whether a newline right at the start of the next text does not count. -/
  ignoreNewline : Bool := false
  /-- Whether content that does not belong in a table goes in front of it. -/
  fostering : Bool := false
deriving DecidableEq, Repr

/-- What a rule says about the token that it was given. -/
inductive Verdict
  | done
  /-- Done, and a slash at the end of the tag was in order. -/
  | closed
  /-- To be taken again in that mode. -/
  | again (mode : InsertionMode)
  /-- Done, and what follows is raw content of that kind. -/
  | raw (kind : RawKind)
  | plaintext
  /-- Done, and a script has ended. -/
  | script
deriving DecidableEq, Repr

/-- What a rule does: the builder after it, and the verdict. -/
abbrev Step := Builder × Verdict

namespace Builder

/-- The step of a rule that is done. -/
def done (b : Builder) : Step := (b, .done)

/-- The step of a rule that is done with a tag that has no content. -/
def closed (b : Builder) : Step := (b, .closed)

/-- The step of a rule that wants the token taken again in that mode. -/
def again (b : Builder) (mode : InsertionMode) : Step := (b, .again mode)

/-- Goes on in another mode. -/
def enter (b : Builder) (mode : InsertionMode) : Builder := { b with mode }

/-- The builder with its draft changed. -/
def onDraft (b : Builder) (f : Draft → Draft) : Builder := { b with draft := f b.draft }

/-- Reports an error. -/
def report (b : Builder) (e : ParseError) : Builder := b.onDraft (·.report e)

/-- Reports that the token does not belong here. -/
def unexpected (b : Builder) : Builder := b.report (.unexpectedToken b.mode)

/-- Changes the document. -/
def edit (b : Builder) (f : Document → Document) : Builder := b.onDraft (·.edit f)

/-- Rules out that a frameset replaces the body. -/
def keepBody (b : Builder) : Builder := { b with framesetOk := false }

/-! ## Open elements -/

/-- The name of the current element. -/
def currentName (b : Builder) : Option QName := b.openElements.head?.map OpenElement.name

/-- Whether the current element has such a name. -/
def currentIs (b : Builder) (p : QName → Bool) : Bool := b.currentName.any p

/-- Whether the current element is not of HTML. -/
def currentIsForeign (b : Builder) : Bool := b.currentIs (·.space ≠ .html)

/-- Whether an element of that name is open. -/
def hasOpen (b : Builder) (name : String) : Bool := b.openElements.any (·.name.isHtml name)

/-- Whether an element that satisfies `p` is open in a scope. -/
def isInScope (b : Builder) (ends : QName → Bool) (p : OpenElement → Bool) : Bool :=
  match b.openElements.find? (fun e => p e || ends e.name) with
  | some e => p e
  | none => false

/-- Whether an element of that name is open in a scope. -/
def inScope (b : Builder) (ends : QName → Bool) (name : String) : Bool :=
  b.isInScope ends (·.name.isHtml name)

/-- The body, if it is open. -/
def body (b : Builder) : Option OpenElement :=
  match b.openElements.reverse with
  | _ :: e :: _ => if e.name.isHtml "body" then some e else none
  | _ => none

/-- The outermost open element. -/
def rootElement (b : Builder) : Option OpenElement := b.openElements.getLast?

/-- Closes the current element. -/
def pop (b : Builder) : Builder := { b with openElements := b.openElements.tail }

/-- Opens an element. -/
def push (b : Builder) (e : OpenElement) : Builder :=
  { b with openElements := e :: b.openElements }

/-- Closes elements up to and including the first that satisfies `p`. -/
def popThrough (b : Builder) (p : QName → Bool) : Builder :=
  { b with openElements := (b.openElements.dropWhile fun e => !p e.name).tail }

/-- Closes elements until the current one satisfies `p`. -/
def popUntil (b : Builder) (p : QName → Bool) : Builder :=
  { b with openElements := b.openElements.dropWhile fun e => !p e.name }

/-- Closes elements as long as the current one satisfies `p`. -/
def popWhile (b : Builder) (p : QName → Bool) : Builder :=
  { b with openElements := b.openElements.dropWhile fun e => p e.name }

/-- Closes that element wherever it stands among the open ones. -/
def close (b : Builder) (id : NodeId) : Builder :=
  { b with openElements := b.openElements.eraseP (·.id == id) }

/-- Closes elements whose end tag may be left out. -/
def impliedEnd (b : Builder) : Builder := b.popWhile QName.isImpliedEnd

/-- Closes elements whose end tag may be left out, up to one of that name. -/
def impliedEndExcept (b : Builder) (name : String) : Builder :=
  b.popWhile fun q => q.isImpliedEnd && !q.isHtml name

/-- Closes elements up to and including one of that name, which should be the current one. -/
def closeNamed (b : Builder) (name : String) : Builder :=
  let expected := b.currentIs (·.isHtml name)
  let b := b.popThrough (·.isHtml name)
  if expected then b else b.report (.openWhileClosing name)

/-- Closes the paragraph. -/
def closeParagraph (b : Builder) : Builder := (b.impliedEndExcept "p").closeNamed "p"

/-- Closes the paragraph, if one is open in button scope. -/
def closeOpenParagraph (b : Builder) : Builder :=
  if b.inScope QName.endsButtonScope "p" then b.closeParagraph else b

/-! ## Placing content -/

/-- A place for content: at the end of a node's children, or in front of a table if the table
stands somewhere and at the end of another node's children if not. -/
inductive Place
  | inside (n : NodeId)
  | beforeTable (table previous : NodeId)
deriving DecidableEq, Repr

/-- The place for content that goes in front of the innermost table. A template that is open
inside the table takes it instead. -/
def fosterPlace : List OpenElement → Place
  | [] => .inside Document.root
  | [e] => .inside e.id
  | e :: f :: es =>
    if e.name.isHtml "template" then .inside e.id
    else if e.name.isHtml "table" then .beforeTable e.id f.id
    else fosterPlace (f :: es)

/-- The place for content of that element. -/
def placeIn (b : Builder) (target : OpenElement) : Place :=
  if b.fostering && target.name.isTablePart then fosterPlace b.openElements
  else .inside target.id

/-- The place for content of the current element. -/
def place (b : Builder) : Place :=
  match b.openElements with
  | [] => .inside Document.root
  | e :: _ => b.placeIn e

/-- Puts a child into a place. -/
def putAt (b : Builder) (place : Place) (child : Child) : Builder :=
  match place with
  | .inside n => b.onDraft (·.append n child)
  | .beforeTable table previous => b.onDraft (·.appendByParent table previous child)

/-- Puts a child where content of the current element goes. -/
def put (b : Builder) (child : Child) : Builder := b.putAt b.place child

/-- Makes an element. -/
def create (b : Builder) (name : QName) (attributes : List Attribute) : Builder × OpenElement :=
  let (draft, id) := b.draft.createElement name attributes
  ({ b with draft }, ⟨id, name⟩)

/-- Makes an element and puts it where content of the current element goes. -/
def insert (b : Builder) (name : QName) (attributes : List Attribute) : Builder × OpenElement :=
  let (b, e) := b.create name attributes
  (b.put (.node e.id), e)

/-- Inserts an element and opens it. -/
def openElement (b : Builder) (name : QName) (attributes : List Attribute) : Builder :=
  let (b, e) := b.insert name attributes
  b.push e

/-- Inserts and opens the element of a tag. -/
def openTag (b : Builder) (t : Tag) : Builder := b.openElement (.html t.name) t.attributes

/-- Inserts the element of a tag that has no content. -/
def insertEmpty (b : Builder) (t : Tag) : Builder := (b.insert (.html t.name) t.attributes).1

/-- Inserts and opens an element that no tag asks for. -/
def openImplied (b : Builder) (name : String) : Builder := b.openElement (.html name) []

/-- Puts text where content of the current element goes. -/
def putText (b : Builder) : Builder := b.put .text

/-- Puts a comment where content of the current element goes. -/
def putComment (b : Builder) : Builder :=
  let (draft, n) := b.draft.createComment
  { b with draft }.put (.node n)

/-- Puts a comment at the end of that node's children. -/
def putCommentIn (b : Builder) (parent : NodeId) : Builder :=
  let (draft, n) := b.draft.createComment
  { b with draft }.putAt (.inside parent) (.node n)

/-- Opens the element of a tag whose content is raw. -/
def openRaw (b : Builder) (t : Tag) (kind : RawKind) : Step :=
  let b := b.openTag t
  ({ b with mode := .text, returnMode := b.mode }, .raw kind)

/-! ## Modes -/

/-- The mode in a select box, by the elements around it. -/
def selectMode : List OpenElement → InsertionMode
  | [] => .inSelect
  | e :: es =>
    if e.name.isHtml "template" then .inSelect
    else if e.name.isHtml "table" then .inSelectInTable
    else selectMode es

/-- The mode that the open elements ask for. -/
def modeFor (b : Builder) : List OpenElement → InsertionMode
  | [] => .inBody
  | e :: es =>
    if e.name.space ≠ .html then b.modeFor es
    else
      match e.name.name with
      | "select" => selectMode es
      | "td" | "th" => if es.isEmpty then b.modeFor es else .inCell
      | "tr" => .inRow
      | "tbody" | "thead" | "tfoot" => .inTableBody
      | "caption" => .inCaption
      | "colgroup" => .inColumnGroup
      | "table" => .inTable
      | "template" => b.templateModes.headD .inTemplate
      | "head" => if es.isEmpty then b.modeFor es else .inHead
      | "body" => .inBody
      | "frameset" => .inFrameset
      | "html" => if b.head.isNone then .beforeHead else .afterHead
      | _ => b.modeFor es

/-- The mode that the open elements ask for. -/
def properMode (b : Builder) : InsertionMode := b.modeFor b.openElements

/-- Goes on in the mode that the open elements ask for. -/
def resetMode (b : Builder) : Builder := b.enter b.properMode

/-- Replaces the mode of the innermost template. -/
def setTemplateMode (b : Builder) (mode : InsertionMode) : Builder :=
  { b with templateModes := mode :: b.templateModes.tail }

/-- Reports the first element that should not be open at the end of the body. -/
def checkBodyEnd (b : Builder) : Builder :=
  match b.openElements.reverse.find? (fun e => !e.name.mayStayOpen) with
  | some e => b.report (.openAtEndOfBody e.name)
  | none => b

end Builder

end UsedCss.Html
