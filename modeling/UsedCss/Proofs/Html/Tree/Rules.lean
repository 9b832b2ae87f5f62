import UsedCss.Html.Tree.Rules
import UsedCss.Proofs.Html.Tree.Table
/-!
# All rules in step

Builders in step stay so by the rules of all modes and by those for content that is not of HTML.
-/

namespace UsedCss.Html.Builder.InStep

variable {r : Fresh → Builder} {b : Builder} (h : InStep r b)
include h

/-! ## Text and select boxes -/

theorem inText (t : Token) : Agree (fun d => (r d).inText t) (b.inText t) := by
  simp only [Builder.inText, h.returnMode]
  cases t with
  | text cs => exact h.putText.done
  | eof => exact h.unexpected.pop.again _
  | tag t => exact .ite ((h.pop.enter _).agree _) (h.pop.enter _).done
  | _ => exact h.done

theorem endOptions : InStep (fun d => (r d).endOptions) b.endOptions := by
  have hoption := h.pop.ite (p := b.currentIs (·.isHtml "option")) h
  simp only [Builder.endOptions, h.currentIs, hoption.currentIs]
  exact hoption.pop.ite hoption

theorem closeOptgroup :
    InStep (fun d => if (r d).currentIs (·.isHtml "optgroup") then (r d).pop else (r d).unexpected)
      (if b.currentIs (·.isHtml "optgroup") then b.pop else b.unexpected) := by
  simp only [h.currentIs]
  exact h.pop.ite h.unexpected

theorem leaveOption :
    InStep
      (fun d =>
        match (r d).openElements with
        | e :: f :: _ => if e.name.isHtml "option" && f.name.isHtml "optgroup" then (r d).pop else r d
        | _ => r d)
      (match b.openElements with
      | e :: f :: _ => if e.name.isHtml "option" && f.name.isHtml "optgroup" then b.pop else b
      | _ => b) := by
  simp only [h.openElements]
  split
  · exact h.pop.ite h
  · exact h

theorem tagInSelect (t : Tag) : Agree (fun d => (r d).tagInSelect t) (b.tagInSelect t) := by
  simp only [Builder.tagInSelect, h.inScope, h.currentIs]
  have hwrong := h.unexpected.ite (p := t.kind = .start || !b.inScope QName.endsSelectScope "select") h
  exact .ite (h.repeatedHtml t).done <| .ite ((h.pop.ite h).openTag t).done <|
    .ite (h.endOptions.openTag t).done <| .ite (h.endOptions.insertEmpty t).closed <|
    .ite h.leaveOption.closeOptgroup.done <| .ite (h.pop.ite h.unexpected).done <|
    .ite ((hwrong.popThrough _).resetMode.ite hwrong).done <|
    .ite (.ite (h.unexpected.popThroughAgain _) h.unexpected.done) <| .ite (h.headTag t) h.unexpected.done

theorem inSelect (t : Token) : Agree (fun d => (r d).inSelect t) (b.inSelect t) := by
  cases t with
  | text cs => exact h.putText.done
  | comment => exact h.putComment.done
  | tag t => exact h.tagInSelect t
  | eof => exact h.endOfPage
  | _ => exact h.unexpected.done

theorem inSelectInTable (t : Token) : Agree (fun d => (r d).inSelectInTable t) (b.inSelectInTable t) := by
  have hother := h.inSelect t
  cases t with
  | tag tag =>
    simp only [Builder.inSelectInTable, h.unexpected.inScope]
    exact .ite (.ite (h.unexpected.popThroughAgain _) h.unexpected.done) (h.tagInSelect tag)
  | _ => exact hother

/-! ## Templates -/

theorem inTemplate (t : Token) : Agree (fun d => (r d).inTemplate t) (b.inTemplate t) := by
  have hgo (mode : InsertionMode) := (h.setTemplateMode mode).again mode
  have hbody := h.inBody t
  cases t with
  | text cs => exact hbody
  | comment => exact hbody
  | tag tag =>
    exact .ite (h.headTag tag) <| .ite (hgo _) <| .ite (hgo _) <| .ite (hgo _) <| .ite (hgo _) <|
      .ite (hgo _) h.unexpected.done
  | eof => exact h.endInTemplate
  | _ => exact h.unexpected.done

/-! ## Behind the body -/

theorem backToBody : Agree (fun d => (r d).backToBody) b.backToBody := h.unexpected.again _

theorem afterBody (t : Token) : Agree (fun d => (r d).afterBody t) (b.afterBody t) := by
  have hbody := h.inBody t
  cases t with
  | text cs => exact .ite hbody h.backToBody
  | comment =>
    simp only [Builder.afterBody, h.rootElement]
    exact (h.putCommentIn _).done
  | tag tag => exact .ite (h.repeatedHtml tag).done <| .ite (h.enter _).done h.backToBody
  | eof => exact h.done
  | _ => exact h.backToBody

theorem afterAfterBody (t : Token) : Agree (fun d => (r d).afterAfterBody t) (b.afterAfterBody t) := by
  have hbody := h.inBody t
  cases t with
  | text cs => exact .ite hbody h.backToBody
  | comment => exact (h.putCommentIn _).done
  | tag tag => exact .ite (h.repeatedHtml tag).done h.backToBody
  | eof => exact h.done
  | _ => exact h.backToBody

/-! ## Framesets -/

theorem inFrameset (t : Token) : Agree (fun d => (r d).inFrameset t) (b.inFrameset t) := by
  simp only [Builder.inFrameset, h.openElements, h.pop.currentIs]
  cases t with
  | text cs => exact (h.putText.ite h.unexpected).done
  | comment => exact h.putComment.done
  | tag t =>
    exact .ite (h.repeatedHtml t).done <| .ite (h.openTag t).done <|
      .ite (.ite h.unexpected.done (h.pop.ite (h.pop.enter _)).done) <| .ite (h.insertEmpty t).closed <|
      .ite (h.headTag t) h.unexpected.done
  | eof => exact (h.ite h.unexpected).done
  | _ => exact h.unexpected.done

theorem afterFrameset (t : Token) : Agree (fun d => (r d).afterFrameset t) (b.afterFrameset t) := by
  cases t with
  | text cs => exact (h.putText.ite h.unexpected).done
  | comment => exact h.putComment.done
  | tag t =>
    exact .ite (h.repeatedHtml t).done <| .ite (h.enter _).done <| .ite (h.headTag t) h.unexpected.done
  | eof => exact h.done
  | _ => exact h.unexpected.done

theorem afterAfterFrameset (t : Token) :
    Agree (fun d => (r d).afterAfterFrameset t) (b.afterAfterFrameset t) := by
  have hbody := h.inBody t
  cases t with
  | text cs => exact .ite hbody h.unexpected.done
  | comment => exact (h.putCommentIn _).done
  | tag tag => exact .ite (h.repeatedHtml tag).done <| .ite (h.headTag tag) h.unexpected.done
  | eof => exact h.done
  | _ => exact h.unexpected.done

/-! ## All modes -/

theorem ruleOf (mode : InsertionMode) (t : Token) : Agree (fun d => (r d).ruleOf mode t) (b.ruleOf mode t) := by
  cases mode with
  | initial => exact h.initial t
  | beforeHtml => exact h.beforeHtml t
  | beforeHead => exact h.beforeHead t
  | inHead => exact h.inHead t
  | afterHead => exact h.afterHead t
  | inBody => exact h.inBody t
  | text => exact h.inText t
  | inTable => exact h.inTable t
  | inTableText => exact h.inTableText t
  | inCaption => exact h.inCaption t
  | inColumnGroup => exact h.inColumnGroup t
  | inTableBody => exact h.inTableBody t
  | inRow => exact h.inRow t
  | inCell => exact h.inCell t
  | inSelect => exact h.inSelect t
  | inSelectInTable => exact h.inSelectInTable t
  | inTemplate => exact h.inTemplate t
  | afterBody => exact h.afterBody t
  | inFrameset => exact h.inFrameset t
  | afterFrameset => exact h.afterFrameset t
  | afterAfterBody => exact h.afterAfterBody t
  | afterAfterFrameset => exact h.afterAfterFrameset t

theorem rule (t : Token) : Agree (fun d => (r d).rule t) (b.rule t) := by
  simp only [Builder.rule, h.mode]
  exact h.ruleOf _ t

/-! ## Foreign content -/

theorem leaveForeign (t : Tag) : Agree (fun d => (r d).leaveForeign t) (b.leaveForeign t) :=
  (h.unexpected.popUntil _).rule _

theorem startInForeign (t : Tag) : Agree (fun d => (r d).startInForeign t) (b.startInForeign t) := by
  simp only [Builder.startInForeign, h.currentName]
  split
  · exact h.openForeign _ _
  · exact h.openForeign _ _
  · exact h.done

theorem endInForeign (t : Tag) (es : List OpenElement) :
    Agree (fun d => (r d).endInForeign t es) (b.endInForeign t es) := by
  induction es with
  | nil => exact h.done
  | cons e es ih =>
    cases es with
    | nil => exact h.done
    | cons f es => exact .ite (h.rule _) <| .ite (h.setOpen _).done ih

theorem inForeign (t : Token) : Agree (fun d => (r d).inForeign t) (b.inForeign t) := by
  cases t with
  | null => exact h.unexpected.putText.done
  | text cs => exact (h.ite h.keepBody).putText.done
  | comment => exact h.putComment.done
  | tag t =>
    simp only [Builder.inForeign, h.openElements]
    refine .ite (h.leaveForeign t) ?_
    split
    · exact h.startInForeign t
    · split
      · exact h.done
      · exact h.done
      · exact .ite (h.setOpen _).done (h.unexpected.endInForeign t _)
  | _ => exact h.done

theorem takesAsForeign (t : Token) (d : Fresh) : (r d).takesAsForeign t = b.takesAsForeign t :=
  h.reads (q := (·.takesAsForeign t)) (fun _ _ => rfl) d

end UsedCss.Html.Builder.InStep
