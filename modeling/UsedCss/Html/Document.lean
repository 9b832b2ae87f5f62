import UsedCss.Html.Name
import UsedCss.Text.Basic
/-!
# Documents

A `Document` is a store of nodes. Each node has a list of children and a link to its
parent, and the moves (`append`, `insertBefore`, `detach`, `reparent`) keep the two in
step. Nodes live as long as something holds them: the document holds its root, a holder of
a handle the node it names, and a live node its children. `release` gives a handle back and
takes down what nobody holds any more.
-/

namespace UsedCss.Html

open UsedCss.Text

/-- A node's place in the store. -/
abbrev NodeId := Nat

/-- An attribute of an element. Names are local names. -/
structure Attribute where
  name : String
  value : String
deriving DecidableEq, Repr, Inhabited

/-- An element: its name and its attributes in source order. -/
structure Element where
  name : QName
  attributes : List Attribute
deriving DecidableEq, Repr

/-- What a node is. Texts and comments keep no content: no question is asked about it. -/
inductive NodeData
  | document
  | element (e : Element)
  | text
  | comment
deriving DecidableEq, Repr

/-- A node with its links. -/
structure Node where
  data : NodeData
  /-- The node whose child this one was made last. That node may be gone. -/
  parent : Option NodeId := none
  children : Array NodeId := #[]
  /-- How many handles to the node are held outside the document. -/
  handles : Nat := 0
  /-- False once the node has been taken down. -/
  live : Bool := true
deriving DecidableEq, Repr

namespace Element

/-- The value of the first attribute of that name. -/
def valueOf (e : Element) (name : String) : Option String :=
  (e.attributes.find? (·.name == name)).map Attribute.value

/-- The words of the class attribute in order. -/
def classTokens (e : Element) : List String :=
  match e.valueOf "class" with
  | none => []
  | some value => (words value.toList).map String.ofList

end Element

/-- A list of attributes with one more, unless its name is there already. -/
def addAttribute (attributes : List Attribute) (a : Attribute) : List Attribute :=
  if attributes.any (·.name == a.name) then attributes else attributes ++ [a]

/-- A list of attributes with those of another list whose names it lacks. -/
def mergeAttributes (attributes new : List Attribute) : List Attribute :=
  new.foldl addAttribute attributes

/-- A store of nodes. The first one is the root. -/
structure Document where
  nodes : Array Node
deriving DecidableEq, Repr

namespace Document

/-- The root's place. -/
def root : NodeId := 0

/-- A document with nothing but its root. -/
def empty : Document := ⟨#[{ data := .document }]⟩

/-- The children of a node in order. -/
def children (d : Document) (n : NodeId) : Array NodeId :=
  (d.nodes[n]?.map Node.children).getD #[]

/-- Whether the node is there and has not been taken down. -/
def isLive (d : Document) (n : NodeId) : Bool := (d.nodes[n]?.map Node.live).getD false

/-- The node that this one names as its parent, be it live or gone. -/
def parentLink (d : Document) (n : NodeId) : Option NodeId := d.nodes[n]?.bind Node.parent

/-- The living parent of a node. -/
def parent (d : Document) (n : NodeId) : Option NodeId := (d.parentLink n).filter d.isLive

/-- What a node is, if it is there. -/
def data? (d : Document) (n : NodeId) : Option NodeData := d.nodes[n]?.map Node.data

/-- The element that a node is, if it is one. -/
def element? (d : Document) (n : NodeId) : Option Element :=
  match d.data? n with
  | some (.element e) => some e
  | _ => none

/-- The document with one node changed. -/
def update (d : Document) (n : NodeId) (f : Node → Node) : Document := ⟨d.nodes.modify n f⟩

/-- The document with another node, which nothing holds but that many handles, and its
place. -/
def create (d : Document) (data : NodeData) (handles : Nat) : Document × NodeId :=
  let n := d.nodes.size
  (⟨d.nodes.push { data, handles }⟩, n)

/-- Takes a node out of the child list of its living parent. -/
def detach (d : Document) (n : NodeId) : Document :=
  match d.parent n with
  | none => d.update n fun x => { x with parent := none }
  | some p =>
    (d.update n fun x => { x with parent := none }).update p fun x =>
      { x with children := x.children.filter (· != n) }

/-- Makes a node the last child of another one. -/
def append (d : Document) (p c : NodeId) : Document :=
  ((d.detach c).update c fun x => { x with parent := some p }).update p fun x =>
    { x with children := x.children.push c }

/-- Puts a node right before a sibling that has that parent; at the end of the parent's
children if the sibling is not among them. -/
def placeBefore (d : Document) (q sibling c : NodeId) : Document :=
  ((d.detach c).update c fun x => { x with parent := some q }).update q fun x =>
    { x with
      children := x.children.insertIdxIfInBounds
        ((x.children.idxOf? sibling).getD x.children.size) c }

/-- Puts a node right before a sibling; changes nothing if the sibling has no living
parent. -/
def insertBefore (d : Document) (sibling c : NodeId) : Document :=
  match d.parent sibling with
  | none => d
  | some q => d.placeBefore q sibling c

/-- Moves every child of a node to the end of another node's children. -/
def reparent (d : Document) (n target : NodeId) : Document :=
  let moved := d.children n
  let emptied := d.update n fun x => { x with children := #[] }
  (moved.foldl (fun d c => d.update c fun x => { x with parent := some target }) emptied).update
    target fun x => { x with children := x.children ++ moved }

/-- Adds to an element the attributes whose names it lacks. -/
def addAttributes (d : Document) (n : NodeId) (attributes : List Attribute) : Document :=
  d.update n fun x =>
    match x.data with
    | .element e =>
      { x with data := .element { e with attributes := mergeAttributes e.attributes attributes } }
    | _ => x

/-! ## Handles and teardown -/

/-- Whether someone outside holds the node: the document its root, anyone else a handle. -/
def isHeld (d : Document) (n : NodeId) : Bool :=
  n == root || (d.nodes[n]?.map fun x => decide (0 < x.handles)).getD false

/-- Whether the node is a child of some node that is live. -/
def isOwned (d : Document) (n : NodeId) : Bool :=
  d.nodes.any fun x => x.live && x.children.contains n

/-- Takes down the nodes of a work list that nothing holds any more. The children of each
go onto the list; `fuel` is at least the number of entries that the list will ever see. -/
def takeDown (d : Document) : (fuel : Nat) → (pending : List NodeId) → Document
  | 0, _ | _, [] => d
  | fuel + 1, n :: pending =>
    if d.isHeld n || d.isOwned n || pending.contains n then d.takeDown fuel pending
    else
      (d.update n fun x => { x with live := false, children := #[] }).takeDown fuel
        ((d.children n).toList.reverse ++ pending)

/-- How many entries all child lists have together. -/
def linkCount (d : Document) : Nat := d.nodes.foldl (fun k x => k + x.children.size) 0

/-- Hands out another handle to a node. -/
def retain (d : Document) (n : NodeId) : Document :=
  d.update n fun x => { x with handles := x.handles + 1 }

/-- Gives back a handle to a node, and takes down what nothing holds any more. -/
def release (d : Document) (n : NodeId) : Document :=
  let d := d.update n fun x => { x with handles := x.handles - 1 }
  d.takeDown (d.linkCount + 1) [n]

/-! ## Walking -/

/-- The nodes below and including those of a work list, each with its depth, parents before
children and children in order; `found` holds those already met, newest first. -/
def outlineFrom (d : Document) :
    (fuel : Nat) → (found : List (Nat × NodeData)) → List (Nat × NodeId) → List (Nat × NodeData)
  | 0, found, _ | _, found, [] => found.reverse
  | fuel + 1, found, (depth, n) :: pending =>
    d.outlineFrom fuel (((d.data? n).map fun x => (depth, x)).toList ++ found)
      ((d.children n).toList.map (fun c => (depth + 1, c)) ++ pending)

/-- The node and all below it, each with its depth, in document order. -/
def outline (d : Document) (n : NodeId) : List (Nat × NodeData) :=
  d.outlineFrom d.nodes.size [] [(0, n)]

/-- The elements among the nodes of a work list and below, in document order; `found` holds
those already met, newest first. -/
def elementsFrom (d : Document) :
    (fuel : Nat) → (found : List Element) → List NodeId → List Element
  | 0, found, _ | _, found, [] => found.reverse
  | fuel + 1, found, n :: pending =>
    d.elementsFrom fuel ((d.element? n).toList ++ found) ((d.children n).toList ++ pending)

/-- The node, if it is an element, and all elements below it, in document order. -/
def elements (d : Document) (n : NodeId) : List Element := d.elementsFrom d.nodes.size [] [n]

end Document

end UsedCss.Html
