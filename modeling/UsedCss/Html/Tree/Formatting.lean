import UsedCss.Html.Tree.Builder
/-!
# Formatting elements

Formatting elements that a misplaced end tag or a new block cuts off are opened again for
the content that follows. `reopen` does so, and `adopt` sorts out an end tag of a
formatting element that stands inside other elements.
-/

namespace UsedCss.Html

namespace Formatting

/-- Whether the entry is that element. -/
def isElement (f : Formatting) (id : NodeId) : Bool :=
  match f with
  | .marker => false
  | .element i _ => i == id

/-- Whether the entry is a marker. -/
def isMarker : Formatting → Bool
  | .marker => true
  | .element .. => false

end Formatting

namespace Builder

/-- Adds a marker. -/
def mark (b : Builder) : Builder := { b with formatting := .marker :: b.formatting }

/-- Removes the entries up to and including the newest marker. -/
def clearToMarker (b : Builder) : Builder :=
  { b with formatting := (b.formatting.dropWhile (!·.isMarker)).tail }

/-- Removes the entry of an element. -/
def forget (b : Builder) (id : NodeId) : Builder :=
  { b with formatting := b.formatting.eraseP (·.isElement id) }

/-- Whether an entry needs no opening: a marker, or an element that is open. -/
def isMarkerOrOpen (b : Builder) : Formatting → Bool
  | .marker => true
  | .element id _ => b.openElements.any (·.id == id)

/-- Opens elements for the entries of a list, the oldest last in it. `reopened` are the
entries opened already, newest first. -/
def reopenAll (b : Builder) (reopened : List Formatting) :
    List Formatting → Builder × List Formatting
  | [] => (b, reopened)
  | .marker :: fs => b.reopenAll reopened fs
  | .element _ t :: fs =>
    let (b, e) := b.insert (.html t.name) t.attributes
    (b.push e).reopenAll (.element e.id t :: reopened) fs

/-- Opens again the formatting elements that have been cut off: all entries that are newer
than the newest one that is open or a marker. -/
def reopen (b : Builder) : Builder :=
  let cutOff := b.formatting.takeWhile fun f => !b.isMarkerOrOpen f
  if cutOff.isEmpty then b
  else
    let kept := b.formatting.drop cutOff.length
    let (b, reopened) := b.reopenAll [] cutOff.reverse
    { b with formatting := reopened ++ kept }

/-- The entries that are newer than the newest marker. -/
def formattingToMarker (b : Builder) : List Formatting :=
  b.formatting.takeWhile (!·.isMarker)

/-- The newest formatting element of that name since the marker. -/
def formattingNamed? (b : Builder) (name : String) : Option (NodeId × Tag) :=
  b.formattingToMarker.findSome? fun
    | .marker => none
    | .element id t => if t.name == name then some (id, t) else none

/-- Opens a formatting element. Of elements that are alike only three stay in the list, so
the oldest one makes room. -/
def openFormatting (b : Builder) (t : Tag) : Builder :=
  let alike := b.formattingToMarker.filterMap fun
    | .marker => none
    | .element id u => if t.alike u then some id else none
  let b := if 3 ≤ alike.length then b.forget (alike.getLastD 0) else b
  let (b, e) := b.insert (.html t.name) t.attributes
  { b.push e with formatting := .element e.id t :: b.formatting }

/-- The ordinary rule for an end tag in the body: it closes the innermost element of its
name unless a special element stands in between. -/
def closeOrdinary (b : Builder) (name : String) : Builder :=
  match b.openElements.find? (fun e => e.name.isHtml name || e.name.isSpecial) with
  | none => b.unexpected
  | some e =>
    if !e.name.isHtml name then b.report .specialWhileClosing
    else
      let b := b.impliedEndExcept name
      let b := if b.currentIs (·.isHtml name) then b else b.unexpected
      b.popThrough (·.isHtml name)

/-! ## Adoption -/

/-- Where the entry for the element that replaces the formatting element goes: into the old
one's place, or right after that of an element. -/
inductive Bookmark
  | inPlace
  | after (id : NodeId)
deriving DecidableEq, Repr

/-- What the walk from the furthest block up to the formatting element remembers: the node
that was moved last, where the new entry goes, and the open elements passed, outermost
last. -/
structure Ascent where
  last : NodeId
  bookmark : Bookmark := .inPlace
  passed : List OpenElement := []

/-- Walks up from the furthest block through the elements between it and the formatting
element, innermost first. An element that is a formatting element itself is replaced by a
new one which takes what was moved last, but only for the first three steps; any other one
is closed. -/
def ascend (b : Builder) (block : NodeId) (count : Nat) (a : Ascent) :
    List OpenElement → Builder × Ascent
  | [] => (b, a)
  | e :: es =>
    let b := if 3 < count then b.forget e.id else b
    match b.formatting.find? (·.isElement e.id) with
    | some (.element _ t) =>
      let (b, new) := b.create (.html t.name) t.attributes
      let b := { b with
        formatting := b.formatting.map fun (f : Formatting) =>
          if f.isElement e.id then .element new.id t else f }
      let bookmark := if a.last = block then .after new.id else a.bookmark
      let b := (b.edit (·.detach a.last)).edit (·.append new.id a.last)
      b.ascend block (count + 1) ⟨new.id, bookmark, new :: a.passed⟩ es
    | _ => b.ascend block (count + 1) a es

/-- The entries with a new one where the bookmark says, in place of that of an element. -/
def replaceFormatting (fs : List Formatting) (id : NodeId) (new : Formatting) :
    Bookmark → List Formatting
  | .inPlace => fs.map fun f => if f.isElement id then new else f
  | .after mark =>
    (fs.flatMap fun f => if f.isElement mark then [new, f] else [f]).eraseP (·.isElement id)

/-- Moves content for an end tag of a formatting element which has a special element, the
furthest block, inside it: what stands inside the block is wrapped into a copy of the
formatting element, and the block is put beside it. `inner` are the open elements inside
the block and the block itself, `between` those between it and the formatting element, and
`outer` those around that. -/
def adoptBlock (b : Builder) (formatting : NodeId) (tag : Tag) (inner : List OpenElement)
    (block : OpenElement) (between outer : List OpenElement) : Builder :=
  let (b, a) := b.ascend block.id 1 { last := block.id } between
  let b := b.edit (·.detach a.last)
  let b :=
    match outer with
    | [] => b
    | ancestor :: _ =>
      let b := { b with
        openElements :=
          inner ++ block ::
            (a.passed.reverse ++ OpenElement.mk formatting (.html tag.name) :: outer) }
      b.putAt (b.placeIn ancestor) (.node a.last)
  let (b, new) := b.create (.html tag.name) tag.attributes
  let b := b.edit (·.reparent block.id new.id)
  let b := b.edit (·.append block.id new.id)
  { b with
    formatting := replaceFormatting b.formatting formatting (.element new.id tag) a.bookmark
    openElements := inner ++ new :: block :: (a.passed.reverse ++ outer) }

/-- Sorts out an end tag of a formatting element, at most `fuel` times. -/
def adoptFrom (b : Builder) (name : String) : (fuel : Nat) → Builder
  | 0 => b
  | fuel + 1 =>
    match b.formattingNamed? name with
    | none => b.closeOrdinary name
    | some (id, tag) =>
      if !b.openElements.any (·.id == id) then (b.report .formattingNotOpen).forget id
      else if !b.isInScope QName.endsScope (·.id == id) then b.report .formattingNotInScope
      else
        let b :=
          if b.openElements.head?.any (·.id == id) then b else b.report .formattingNotCurrent
        let inside := b.openElements.takeWhile (·.id != id)
        let outer := (b.openElements.dropWhile (·.id != id)).tail
        let between := (inside.reverse.takeWhile fun e => !e.name.isSpecial).reverse
        match inside.reverse.dropWhile (fun e => !e.name.isSpecial) with
        | [] => { b with openElements := outer }.forget id
        | block :: inner =>
          (b.adoptBlock id tag inner.reverse block between outer).adoptFrom name fuel

/-- Sorts out an end tag of a formatting element. -/
def adopt (b : Builder) (name : String) : Builder :=
  match b.openElements with
  | e :: _ =>
    if e.name.isHtml name && !b.formatting.any (·.isElement e.id) then b.pop
    else b.adoptFrom name 8
  | [] => b.adoptFrom name 8

end Builder

end UsedCss.Html
