import UsedCss.Html.Tree.Body
import UsedCss.Proofs.Html.Tree.Head
/-!
# The body in step

Builders in step stay so by the rule of the body.
-/

namespace UsedCss.Html.Builder.InStep

variable {r : Fresh → Builder} {b : Builder} (h : InStep r b)
include h

/-! ## The end of the page -/

theorem endInTemplate : Agree (fun d => (r d).endInTemplate) b.endInTemplate := by
  have hend := (h.unexpected.popThrough (·.isHtml "template")).popTemplateMode.resetMode
  simp only [Builder.endInTemplate, h.hasOpen, hend.mode]
  exact .ite h.done (hend.again _)

theorem endOfPage : Agree (fun d => (r d).endOfPage) b.endOfPage := by
  simp only [Builder.endOfPage, h.templateModes]
  exact .ite h.checkBodyEnd.done h.endInTemplate

/-! ## Start tags -/

theorem repeatedBody (t : Tag) : InStep (fun d => (r d).repeatedBody t) (b.repeatedBody t) := by
  have h := h.unexpected
  simp only [Builder.repeatedBody, h.body, h.hasOpen]
  split
  · exact h.ite (h.keepBody.addAttributes _ _)
  · exact h

theorem replaceBody (t : Tag) : InStep (fun d => (r d).replaceBody t) (b.replaceBody t) := by
  have h := h.unexpected
  simp only [Builder.replaceBody, h.framesetOk, h.body]
  split
  · next e _ _ =>
    have h := (h.detach e.id).control
      (f := fun b => { b with openElements := b.openElements.drop (b.openElements.length - 1) }) fun _ _ => rfl
    exact (h.openTag t).enter _
  · exact h

theorem openBlock (t : Tag) : InStep (fun d => (r d).openBlock t) (b.openBlock t) :=
  h.closeOpenParagraph.openTag t

theorem openHeading (t : Tag) : InStep (fun d => (r d).openHeading t) (b.openHeading t) := by
  have h := h.closeOpenParagraph
  simp only [Builder.openHeading, h.currentIs]
  exact ((h.report _).pop.ite h).openTag t

theorem openForm (t : Tag) : InStep (fun d => (r d).openForm t) (b.openForm t) := by
  have hopen := h.openBlock t
  simp only [Builder.openForm, h.form, h.hasOpen, hopen.hasOpen]
  have hform := hopen.control (f := fun b => { b with form := b.openElements.head?.map OpenElement.id })
    fun _ _ => rfl
  exact (h.report _).ite (hopen.ite hform)

theorem openItem (t : Tag) (names : List String) :
    InStep (fun d => (r d).openItem t names) (b.openItem t names) := by
  have h := h.keepBody
  simp only [Builder.openItem, h.openElements]
  split
  · exact (((h.impliedEndExcept _).closeNamed _).ite h).openBlock t
  · exact h.openBlock t

theorem openButton (t : Tag) : InStep (fun d => (r d).openButton t) (b.openButton t) := by
  simp only [Builder.openButton, h.inScope]
  exact ((((h.report _).impliedEnd.popThrough _).ite h).reopen.openTag t).keepBody

theorem openLink (t : Tag) : InStep (fun d => (r d).openLink t) (b.openLink t) := by
  simp only [Builder.openLink, h.formattingNamed?]
  split
  · exact h.reopen.openFormatting t
  · exact (((h.unexpected.adopt "a").forget _).close _).reopen.openFormatting t

theorem openNobr (t : Tag) : InStep (fun d => (r d).openNobr t) (b.openNobr t) := by
  have h := h.reopen
  simp only [Builder.openNobr, h.inScope]
  exact (((h.report _).adopt _).reopen.ite h).openFormatting t

theorem openSelect (t : Tag) : InStep (fun d => (r d).openSelect t) (b.openSelect t) := by
  have h := (h.reopen.openTag t).keepBody
  simp only [Builder.openSelect, h.mode]
  exact h.enter _

theorem openOption (t : Tag) : InStep (fun d => (r d).openOption t) (b.openOption t) := by
  simp only [Builder.openOption, h.currentIs]
  exact (h.pop.ite h).reopen.openTag t

theorem openRuby (t : Tag) : InStep (fun d => (r d).openRuby t) (b.openRuby t) := by
  have hends := (InStep.ite (p := ["rb", "rtc"].contains t.name) h.impliedEnd (h.impliedEndExcept "rtc")).ite
    (p := b.inScope QName.endsScope "ruby") h
  simp only [Builder.openRuby, h.inScope, hends.currentIs]
  exact (hends.ite hends.unexpected).openTag t

theorem insertVoid (t : Tag) : Agree (fun d => (r d).insertVoid t) (b.insertVoid t) :=
  have h := h.reopen.insertEmpty t
  (h.ite h.keepBody).closed

theorem ignoreNextNewline :
    InStep (fun d => { r d with ignoreNewline := true }) { b with ignoreNewline := true } :=
  h.control (f := fun b => { b with ignoreNewline := true }) fun _ _ => rfl

theorem startInBody (t : Tag) : Agree (fun d => (r d).startInBody t) (b.startInBody t) := by
  simp only [Builder.startInBody, h.oldRules]
  exact .ite (h.openBlock t).done <| .ite (h.reopen.openFormatting t).done <| .ite (h.openLink t).done <|
    .ite (h.openItem t _).done <| .ite (h.openItem t _).done <| .ite (h.openHeading t).done <|
    .ite (h.headTag t) <| .ite (h.insertVoid t) <| .ite (h.unexpected.insertVoid _) <|
    .ite (h.insertEmpty t).closed <| .ite (h.closeOpenParagraph.insertEmpty t).keepBody.closed <|
    .ite (h.repeatedHtml t).done <| .ite (h.repeatedBody t).done <| .ite (h.replaceBody t).done <|
    .ite (h.openBlock t).keepBody.ignoreNextNewline.done <| .ite (h.openForm t).done <|
    .ite ((h.openBlock t).agree _) <| .ite (h.openButton t).done <| .ite (h.openNobr t).done <|
    .ite (h.reopen.openTag t).mark.keepBody.done <|
    .ite (((h.ite h.closeOpenParagraph).openTag t).keepBody.enter _).done <|
    .ite (h.keepBody.ignoreNextNewline.openRaw t _) <|
    .ite (h.closeOpenParagraph.reopen.keepBody.openRaw t _) <| .ite (h.keepBody.openRaw t _) <|
    .ite (h.openRaw t _) <| .ite (h.openSelect t).done <| .ite (h.openOption t).done <|
    .ite (h.openRuby t).done <| .ite (h.openForeign _ t) <| .ite (h.openForeign _ t) <|
    .ite h.unexpected.done (h.reopen.openTag t).done

/-! ## End tags -/

theorem closeForm : InStep (fun d => (r d).closeForm) b.closeForm := by
  have hends := h.impliedEnd
  simp only [Builder.closeForm, h.hasOpen, h.inScope, h.form, hends.currentIs]
  -- inside a template the form is the open one of that name, elsewhere the one that is remembered
  refine .ite ((h.report _).ite ((hends.ite (hends.report _)).popThrough _)) ?_
  split
  · exact h.report _
  · next form _ =>
    have h := h.control (f := fun b => { b with form := none }) fun _ _ => rfl
    have hends := h.impliedEnd
    have hclose := hends.close form
    simp only [h.isInScope, hends.openElements]
    exact (h.report _).ite (hclose.ite (hclose.report _))

theorem closeHeading (name : String) : InStep (fun d => (r d).closeHeading name) (b.closeHeading name) := by
  have hends := h.impliedEnd
  simp only [Builder.closeHeading, h.isInScope, hends.currentIs]
  exact ((hends.ite (hends.report _)).popThrough _).ite (h.report _)

theorem closeItem (name : String) : InStep (fun d => (r d).closeItem name) (b.closeItem name) := by
  simp only [Builder.closeItem, h.inScope]
  exact ((h.impliedEndExcept name).closeNamed name).ite (h.report _)

theorem closeScoped (name : String) : InStep (fun d => (r d).closeScoped name) (b.closeScoped name) := by
  simp only [Builder.closeScoped, h.inScope]
  exact (h.impliedEnd.closeNamed name).ite h.unexpected

theorem endInBody (t : Tag) : Agree (fun d => (r d).endInBody t) (b.endInBody t) := by
  simp only [Builder.endInBody, h.inScope]
  exact .ite (h.ite ((h.report _).openImplied _)).closeParagraph.done <| .ite (h.closeScoped _).done <|
    .ite (h.adopt _).done <| .ite (h.closeItem _).done <| .ite (h.closeHeading _).done <|
    .ite (.ite (h.checkBodyEnd.enter _).done (h.report _).done) <|
    .ite (.ite (h.checkBodyEnd.again _) (h.report _).done) <| .ite h.closeForm.done <|
    .ite (.ite (h.closeScoped _).clearToMarker.done h.unexpected.done) <| .ite (h.headTag t) <|
    .ite (h.unexpected.insertVoid _) (h.closeOrdinary _).done

/-! ## The rule -/

theorem textInBody (cs : List Char) : InStep (fun d => (r d).textInBody cs) (b.textInBody cs) :=
  (h.reopen.ite h.reopen.keepBody).putText

theorem inBody (t : Token) : Agree (fun d => (r d).inBody t) (b.inBody t) := by
  cases t with
  | null => exact h.unexpected.done
  | text cs => exact (h.textInBody cs).done
  | comment => exact h.putComment.done
  | tag t =>
    simp only [Builder.inBody]
    split
    · exact h.startInBody t
    · exact h.endInBody t
  | eof => exact h.endOfPage
  | _ => exact h.done

end UsedCss.Html.Builder.InStep
