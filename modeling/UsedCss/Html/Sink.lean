import UsedCss.Html.Tree.Construct
/-!
# What a parser asks for

A parser builds a document by `Call`s: steps of building it, and questions on the way that leave it as it
is. `Draft.answer` answers one, and `Draft.finish` hands back what all of them have made.
-/

namespace UsedCss.Html

/-- What a parser asks for while it builds a document. -/
inductive Call
  /-- A step of building it. For a processing instruction a comment is made. -/
  | step (e : Edit)
  /-- The root. -/
  | document
  /-- The node for the content of a template. -/
  | templateContents (n : NodeId)
  | elementName (n : NodeId)
  | sameNode (m n : NodeId)
  | doctype
  /-- Word that the page asks for old rules. -/
  | oldRules
deriving DecidableEq, Repr

/-- What a parser is answered. -/
inductive Answer
  | nothing
  | node (n : NodeId)
  | name (q : QName)
  | truth (b : Bool)
deriving DecidableEq, Repr

namespace Draft

/-- Answers a call. A node that is handed out comes with a handle to it; a template's content stands right
below the template; and what is no element has an empty name. -/
def answer (d : Draft) : Call → Draft × Answer
  | .step (.createElement name attributes) =>
    let (d, n) := d.createElement name attributes
    (d, .node n)
  | .step .createComment =>
    let (d, n) := d.createComment
    (d, .node n)
  | .step e => (d.apply e, .nothing)
  | .document => (d.apply (.retain Document.root), .node Document.root)
  | .templateContents n => (d.apply (.retain n), .node n)
  | .elementName n => (d, .name (((d.document.element? n).map Element.name).getD ⟨.other "", ""⟩))
  | .sameNode m n => (d, .truth (m == n))
  | .doctype | .oldRules => (d, .nothing)

/-- Answers calls one after another. -/
def answerAll (d : Draft) (calls : List Call) : Draft := calls.foldl (fun d c => (d.answer c).1) d

/-- What is handed back when all calls have been made. -/
def finish (d : Draft) : Page := ⟨d.document, d.reported⟩

end Draft

end UsedCss.Html
