import UsedCss.Html.Document
import UsedCss.Html.ParseError
/-!
# Documents in the making

A `Draft` is a document while it is being built, with the errors reported on the way. An
error counts from the first element on: what is wrong with the prologue in front of it is
nobody's concern. `Edit` names the steps by which a draft is built, and `run` takes them
one after another.
-/

namespace UsedCss.Html

/-- A document in the making. -/
structure Draft where
  document : Document := .empty
  /-- The errors that count, newest first. -/
  errors : List ParseError := []
  /-- Whether an element has been made. -/
  rooted : Bool := false
deriving DecidableEq, Repr

/-- What is put into a document: a node that is there already, or a new text. -/
inductive Child
  | node (n : NodeId)
  | text
deriving DecidableEq, Repr

namespace Draft

/-- The draft with its document changed. -/
def edit (d : Draft) (f : Document → Document) : Draft := { d with document := f d.document }

/-- Reports an error, which counts once an element has been made. -/
def report (d : Draft) (e : ParseError) : Draft :=
  if d.rooted then { d with errors := e :: d.errors } else d

/-- Makes an element that stands nowhere yet, and a handle to it. -/
def createElement (d : Draft) (name : QName) (attributes : List Attribute) : Draft × NodeId :=
  let (document, n) := d.document.create (.element ⟨name, attributes⟩) 1
  ({ d with document, rooted := true }, n)

/-- Makes a comment that stands nowhere yet, and a handle to it. -/
def createComment (d : Draft) : Draft × NodeId :=
  let (document, n) := d.document.create .comment 1
  ({ d with document }, n)

/-- The node that a child is; a new text is made, and only the document will hold it. -/
def nodeOf (d : Draft) : Child → Draft × NodeId
  | .node n => (d, n)
  | .text =>
    let (document, n) := d.document.create .text 0
    ({ d with document }, n)

/-- Makes a child the last one of a node. -/
def append (d : Draft) (parent : NodeId) (child : Child) : Draft :=
  let (d, c) := d.nodeOf child
  d.edit (·.append parent c)

/-- Puts a child right before a sibling; does nothing if the sibling has no living
parent. -/
def appendBefore (d : Draft) (sibling : NodeId) (child : Child) : Draft :=
  if (d.document.parent sibling).isSome then
    let (d, c) := d.nodeOf child
    d.edit (·.insertBefore sibling c)
  else d

/-- Puts a child right before an element that has a living parent, and at the end of
another element's children if it has none. -/
def appendByParent (d : Draft) (element previous : NodeId) (child : Child) : Draft :=
  if (d.document.parent element).isSome then d.appendBefore element child
  else d.append previous child

end Draft

/-- A step of building a document. -/
inductive Edit
  | createElement (name : QName) (attributes : List Attribute)
  | createComment
  | append (parent : NodeId) (child : Child)
  | appendBefore (sibling : NodeId) (child : Child)
  | appendByParent (element previous : NodeId) (child : Child)
  | detach (n : NodeId)
  | reparent (n target : NodeId)
  | addAttributes (n : NodeId) (attributes : List Attribute)
  | report (e : ParseError)
  | retain (n : NodeId)
  | release (n : NodeId)
deriving DecidableEq, Repr

namespace Draft

/-- Takes one step. -/
def apply (d : Draft) : Edit → Draft
  | .createElement name attributes => (d.createElement name attributes).1
  | .createComment => d.createComment.1
  | .append parent child => d.append parent child
  | .appendBefore sibling child => d.appendBefore sibling child
  | .appendByParent element previous child => d.appendByParent element previous child
  | .detach n => d.edit (·.detach n)
  | .reparent n target => d.edit (·.reparent n target)
  | .addAttributes n attributes => d.edit (·.addAttributes n attributes)
  | .report e => d.report e
  | .retain n => d.edit (·.retain n)
  | .release n => d.edit (·.release n)

/-- Takes steps one after another, from a draft with nothing but its root. -/
def run (edits : List Edit) : Draft := edits.foldl apply {}

/-- The errors that count, in the order they were reported. -/
def reported (d : Draft) : List ParseError := d.errors.reverse

end Draft

end UsedCss.Html
