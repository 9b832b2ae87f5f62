import UsedCss.Html.Tree.Table
import UsedCss.Proofs.Html.Tree.Body
/-!
# Tables in step

Builders in step stay so by the rules of the modes inside a table.
-/

namespace UsedCss.Html.Builder.InStep

variable {r : Fresh → Builder} {b : Builder} (h : InStep r b)
include h

/-! ## Right in a table -/

theorem foster (t : Token) : Agree (fun d => (r d).foster t) (b.foster t) := by
  have h := h.control (f := fun b => { b with fostering := true }) fun _ _ => rfl
  obtain ⟨r, b, v, hr, hb, h⟩ := (h.inBody t).exists_eq
  simp only [Builder.foster, hr, hb]
  exact (h.control (f := fun b => { b with fostering := false }) fun _ _ => rfl).agree v

theorem backToTable : InStep (fun d => (r d).backToTable) b.backToTable := h.popUntil _

theorem backToGroup : InStep (fun d => (r d).backToGroup) b.backToGroup := h.popUntil _

theorem backToRow : InStep (fun d => (r d).backToRow) b.backToRow := h.popUntil _

theorem charactersInTable (t : Token) :
    Agree (fun d => (r d).charactersInTable t) (b.charactersInTable t) := by
  simp only [Builder.charactersInTable, h.currentIs]
  have hkept := h.control (f := fun b => { b with returnMode := b.mode }) fun _ _ => rfl
  exact .ite (hkept.again _) ((h.report _).foster t)

/-- Closes an element and all inside it, and has the token taken by the rule of the mode that is right
then. -/
theorem popThroughAgain (p : QName → Bool) :
    Agree (fun d => ((r d).popThrough p).again ((r d).popThrough p).properMode)
      ((b.popThrough p).again (b.popThrough p).properMode) := by
  have h := h.popThrough p
  simp only [h.properMode]
  exact h.again _

theorem formInTable (t : Tag) :
    Agree
      (fun d =>
        let (b, e) := (r d).insert (.html t.name) t.attributes
        { b with form := some e.id }.done)
      (let (b, e) := b.insert (.html t.name) t.attributes
       { b with form := some e.id }.done) := by
  obtain ⟨r, b, e, hr, hb, h⟩ := (h.insert (.html t.name) t.attributes).exists_eq
  simp only [hr, hb]
  exact (h.control (f := fun b => { b with form := some e.id }) fun _ _ => rfl).done

theorem tagInTable (t : Tag) : Agree (fun d => (r d).tagInTable t) (b.tagInTable t) := by
  have hwrong := h.unexpected
  simp only [Builder.tagInTable, h.inScope, hwrong.inScope, hwrong.hasOpen, hwrong.form]
  exact .ite ((h.backToTable.mark.openTag t).enter _).done <| .ite ((h.backToTable.openTag t).enter _).done <|
    .ite ((h.backToTable.openImplied _).again _) <| .ite ((h.backToTable.openTag t).enter _).done <|
    .ite ((h.backToTable.openImplied _).again _) <| .ite (.ite (hwrong.popThroughAgain _) hwrong.done) <|
    .ite (.ite (h.popThrough _).resetMode.done hwrong.done) <| .ite hwrong.done <| .ite (h.headTag t) <|
    .ite (hwrong.insertEmpty t).closed <| .ite (.ite hwrong.done (hwrong.formInTable t)) (hwrong.foster _)

theorem inTable (t : Token) : Agree (fun d => (r d).inTable t) (b.inTable t) := by
  cases t with
  | null => exact h.charactersInTable _
  | text cs => exact h.charactersInTable _
  | comment => exact h.putComment.done
  | tag t => exact h.tagInTable t
  | eof => exact h.endOfPage
  | _ => exact h.done

/-! ## Text in a table -/

omit h in
theorem foldl {α : Type} {f : Builder → α → Builder} (h : InStep r b)
    (hf : ∀ {r b}, InStep r b → ∀ x, InStep (fun d => f (r d) x) (f b x)) (xs : List α) :
    InStep (fun d => xs.foldl f (r d)) (xs.foldl f b) := by
  induction xs generalizing r b with
  | nil => exact h
  | cons x xs ih => exact ih (hf h x)

theorem putTableText : InStep (fun d => (r d).putTableText) b.putTableText := by
  simp only [Builder.putTableText, h.tableText]
  have h := h.control (f := fun b => { b with tableText := [] }) fun _ _ => rfl
  exact (h.foldl (fun h _ => h.putText) _).ite ((h.report _).foldl (fun h cs => (h.foster (.text cs)).inStep) _)

theorem inTableText (t : Token) : Agree (fun d => (r d).inTableText t) (b.inTableText t) := by
  cases t with
  | null => exact h.unexpected.done
  | text cs => exact (h.control (f := fun b => { b with tableText := cs :: b.tableText }) fun _ _ => rfl).done
  | _ =>
    simp only [Builder.inTableText, h.returnMode]
    exact h.putTableText.again _

/-! ## Inside the parts of a table -/

theorem inCaption (t : Token) : Agree (fun d => (r d).inCaption t) (b.inCaption t) := by
  have hother := h.inBody t
  cases t with
  | tag tag =>
    have hends := (h.impliedEnd.closeNamed "caption").clearToMarker
    simp only [Builder.inCaption, h.inScope]
    exact .ite (.ite (.ite (hends.enter _).done (hends.again _)) h.unexpected.done) <|
      .ite h.unexpected.done hother
  | _ => exact hother

theorem leaveColumns : Agree (fun d => (r d).leaveColumns) b.leaveColumns := by
  simp only [Builder.leaveColumns, h.currentIs]
  exact .ite (h.pop.again _) h.unexpected.done

theorem inColumnGroup (t : Token) : Agree (fun d => (r d).inColumnGroup t) (b.inColumnGroup t) := by
  cases t with
  | text cs => exact .ite h.putText.done h.leaveColumns
  | comment => exact h.putComment.done
  | tag t =>
    simp only [Builder.inColumnGroup, h.currentIs]
    exact .ite (h.repeatedHtml t).done <| .ite (h.insertEmpty t).closed <|
      .ite (.ite (h.pop.enter _).done h.unexpected.done) <| .ite h.unexpected.done <| .ite (h.headTag t)
      h.leaveColumns
  | eof => exact h.endOfPage
  | _ => exact h.leaveColumns

theorem inTableBody (t : Token) : Agree (fun d => (r d).inTableBody t) (b.inTableBody t) := by
  have hother := h.inTable t
  cases t with
  | tag tag =>
    simp only [Builder.inTableBody, h.inScope, h.isInScope]
    exact .ite ((h.backToGroup.openTag tag).enter _).done <|
      .ite ((h.unexpected.backToGroup.openImplied _).again _) <|
      .ite (.ite (h.backToGroup.pop.enter _).done h.unexpected.done) <|
      .ite (.ite (h.backToGroup.pop.again _) h.unexpected.done) <| .ite h.unexpected.done hother
  | _ => exact hother

theorem inRow (t : Token) : Agree (fun d => (r d).inRow t) (b.inRow t) := by
  have hother := h.inTable t
  cases t with
  | tag tag =>
    simp only [Builder.inRow, h.inScope]
    exact .ite ((h.backToRow.openTag tag).mark.enter _).done <|
      .ite (.ite (h.backToRow.pop.enter _).done h.unexpected.done) <|
      .ite (.ite (h.backToRow.pop.again _) h.unexpected.done) <|
      .ite (.ite h.unexpected.done (.ite (h.backToRow.pop.again _) h.done)) <|
      .ite h.unexpected.done hother
  | _ => exact hother

theorem closeCell : InStep (fun d => (r d).closeCell) b.closeCell := by
  have h := h.impliedEnd
  have hclose := h.popThrough QName.isCell
  simp only [Builder.closeCell, h.currentIs]
  exact (hclose.ite (hclose.report _)).clearToMarker

theorem inCell (t : Token) : Agree (fun d => (r d).inCell t) (b.inCell t) := by
  have hother := h.inBody t
  cases t with
  | tag tag =>
    simp only [Builder.inCell, h.inScope, h.isInScope]
    exact .ite (.ite ((h.impliedEnd.closeNamed _).clearToMarker.enter _).done h.unexpected.done) <|
      .ite (.ite (h.closeCell.again _) h.unexpected.done) <| .ite h.unexpected.done <|
      .ite (.ite (h.closeCell.again _) h.unexpected.done) hother
  | _ => exact hother

end UsedCss.Html.Builder.InStep
