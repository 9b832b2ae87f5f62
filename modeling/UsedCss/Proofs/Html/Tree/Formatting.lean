import UsedCss.Html.Tree.Formatting
import UsedCss.Proofs.Html.Tree.Builder
/-!
# Formatting elements in step

Builders in step stay so where formatting elements are opened again and where an end tag of one is sorted
out.
-/

namespace UsedCss.Html.Builder.InStep

variable {r : Fresh → Builder} {b : Builder} (h : InStep r b)
include h

/-! ## The list of formatting elements -/

theorem isMarkerOrOpen (f : Formatting) (d : Fresh) : (r d).isMarkerOrOpen f = b.isMarkerOrOpen f :=
  h.reads (q := (·.isMarkerOrOpen f)) (fun _ _ => by cases f <;> rfl) d

theorem formattingToMarker (d : Fresh) : (r d).formattingToMarker = b.formattingToMarker :=
  h.reads (fun _ _ => rfl) d

theorem formattingNamed? (name : String) (d : Fresh) : (r d).formattingNamed? name = b.formattingNamed? name :=
  h.reads (q := (·.formattingNamed? name)) (fun _ _ => rfl) d

theorem setFormatting (fs : List Formatting) :
    InStep (fun d => { r d with formatting := fs }) { b with formatting := fs } :=
  h.control (f := fun b => { b with formatting := fs }) fun _ _ => rfl

theorem setOpen (es : List OpenElement) :
    InStep (fun d => { r d with openElements := es }) { b with openElements := es } :=
  h.control (f := fun b => { b with openElements := es }) fun _ _ => rfl

theorem mark : InStep (fun d => (r d).mark) b.mark := h.control fun _ _ => rfl

theorem clearToMarker : InStep (fun d => (r d).clearToMarker) b.clearToMarker := h.control fun _ _ => rfl

theorem forget (id : NodeId) : InStep (fun d => (r d).forget id) (b.forget id) :=
  h.control (f := (·.forget id)) fun _ _ => rfl

/-! ## Opening formatting elements -/

omit h in
theorem reopenAll (h : InStep r b) (reopened fs : List Formatting) :
    Agree (fun d => (r d).reopenAll reopened fs) (b.reopenAll reopened fs) := by
  induction fs generalizing r b reopened with
  | nil => exact h.agree _
  | cons f fs ih =>
    cases f with
    | marker => exact ih h _
    | element id t =>
      obtain ⟨r, b, e, hr, hb, h⟩ := (h.insert (.html t.name) t.attributes).exists_eq
      simp only [Builder.reopenAll, hr, hb]
      exact ih (h.push e) _

theorem reopen : InStep (fun d => (r d).reopen) b.reopen := by
  simp only [Builder.reopen, h.formatting, h.isMarkerOrOpen]
  split
  · exact h
  · obtain ⟨r, b, fs, hr, hb, h⟩ :=
      (h.reopenAll [] (b.formatting.takeWhile fun f => !b.isMarkerOrOpen f).reverse).exists_eq
    simp only [hr, hb]
    exact h.setFormatting _

theorem openFormatting (t : Tag) : InStep (fun d => (r d).openFormatting t) (b.openFormatting t) := by
  simp only [Builder.openFormatting, h.formattingToMarker]
  generalize b.formattingToMarker.filterMap _ = alike
  have h := InStep.ite (p := 3 ≤ alike.length) (h.forget (alike.getLastD 0)) h
  obtain ⟨r, b, e, hr, hb, h⟩ := (h.insert (.html t.name) t.attributes).exists_eq
  simp only [hr, hb, h.formatting]
  exact (h.push e).setFormatting _

/-! ## End tags -/

theorem closeOrdinary (name : String) : InStep (fun d => (r d).closeOrdinary name) (b.closeOrdinary name) := by
  simp only [Builder.closeOrdinary, h.openElements]
  split
  · exact h.unexpected
  · split
    · exact h.report _
    · have h := h.impliedEndExcept name
      simp only [h.currentIs]
      exact (h.ite h.unexpected).popThrough _

omit h in
theorem ascend (h : InStep r b) (block : NodeId) (count : Nat) (a : Ascent) (es : List OpenElement) :
    Agree (fun d => (r d).ascend block count a es) (b.ascend block count a es) := by
  induction es generalizing r b count a with
  | nil => exact h.agree _
  | cons e es ih =>
    have h := InStep.ite (p := 3 < count) (h.forget e.id) h
    simp only [Builder.ascend, h.formatting]
    split
    · next id t _ =>
      obtain ⟨r, b, new, hr, hb, h⟩ := (h.create (.html t.name) t.attributes).exists_eq
      simp only [hr, hb, h.formatting]
      exact ih (((h.setFormatting _).detach _).append _ _) _ _
    · exact ih h _ _

theorem adoptBlock (formatting : NodeId) (tag : Tag) (inner : List OpenElement) (block : OpenElement)
    (between outer : List OpenElement) :
    InStep (fun d => (r d).adoptBlock formatting tag inner block between outer)
      (b.adoptBlock formatting tag inner block between outer) := by
  obtain ⟨r, b, a, hr, hb, h⟩ := (h.ascend block.id 1 { last := block.id } between).exists_eq
  simp only [Builder.adoptBlock, hr, hb]
  -- with elements around it what was moved last is put somewhere first; then a copy takes the block's children
  cases outer with
  | nil =>
    obtain ⟨r, b, new, hr, hb, h⟩ := ((h.detach a.last).create (.html tag.name) tag.attributes).exists_eq
    have h := (h.reparent block.id new.id).append block.id new.id
    simp only [hr, hb, h.formatting]
    exact (h.setFormatting _).setOpen _
  | cons ancestor outer =>
    have h := (h.detach a.last).setOpen (inner ++ block ::
      (a.passed.reverse ++ OpenElement.mk formatting (.html tag.name) :: ancestor :: outer))
    simp only [h.placeIn]
    generalize Builder.placeIn _ ancestor = place
    obtain ⟨r, b, new, hr, hb, h⟩ :=
      ((h.putAt place (.node a.last)).create (.html tag.name) tag.attributes).exists_eq
    have h := (h.reparent block.id new.id).append block.id new.id
    simp only [hr, hb, h.formatting]
    exact (h.setFormatting _).setOpen _

omit h in
theorem adoptFrom (h : InStep r b) (name : String) (fuel : Nat) :
    InStep (fun d => (r d).adoptFrom name fuel) (b.adoptFrom name fuel) := by
  induction fuel generalizing r b with
  | zero => exact h
  | succ fuel ih =>
    simp only [Builder.adoptFrom, h.formattingNamed?, h.openElements, h.isInScope]
    split
    · exact h.closeOrdinary name
    · next id tag _ =>
      split
      · exact (h.report _).forget _
      · split
        · exact h.report _
        · have h := InStep.ite (p := b.openElements.head?.any (·.id == id)) h (h.report .formattingNotCurrent)
          simp only [h.openElements]
          split
          · exact (h.setOpen _).forget _
          · exact ih (h.adoptBlock ..)

theorem adopt (name : String) : InStep (fun d => (r d).adopt name) (b.adopt name) := by
  simp only [Builder.adopt, h.openElements, h.formatting]
  split
  · split
    · exact h.pop
    · exact h.adoptFrom _ _
  · exact h.adoptFrom _ _

end UsedCss.Html.Builder.InStep
