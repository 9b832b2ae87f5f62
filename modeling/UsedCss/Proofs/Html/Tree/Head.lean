import UsedCss.Html.Tree.Foreign
import UsedCss.Proofs.Html.Tree.Formatting
/-!
# The start of a page in step

Builders in step stay so by the rules of the modes up to the body, and where elements that are not of HTML
are opened.
-/

namespace UsedCss.Html.Builder.InStep

variable {r : Fresh → Builder} {b : Builder} (h : InStep r b)
include h

/-! ## Templates -/

theorem popTemplateMode : InStep (fun d => { (r d).clearToMarker with templateModes := (r d).templateModes.tail })
    { b.clearToMarker with templateModes := b.templateModes.tail } :=
  h.control (f := fun b => { b.clearToMarker with templateModes := b.templateModes.tail }) fun _ _ => rfl

theorem openTemplate (t : Tag) : InStep (fun d => (r d).openTemplate t) (b.openTemplate t) := by
  have hshadow (d : Fresh) : (r d).attachesShadow t = b.attachesShadow t :=
    h.reads (q := (·.attachesShadow t)) (fun _ _ => rfl) d
  simp only [Builder.openTemplate, hshadow]
  have h := h.control (f := fun b => { b.mark.keepBody with
    mode := .inTemplate, templateModes := .inTemplate :: b.templateModes }) fun _ _ => rfl
  exact h.ite (h.openTag t)

theorem closeTemplate : InStep (fun d => (r d).closeTemplate) b.closeTemplate := by
  simp only [Builder.closeTemplate, h.hasOpen]
  exact h.unexpected.ite ((h.popWhile _).closeNamed _).popTemplateMode.resetMode

/-! ## Elements -/

theorem openRoot (attributes : List Attribute) :
    InStep (fun d => (r d).openRoot attributes) (b.openRoot attributes) := by
  obtain ⟨r, b, e, hr, hb, h⟩ := (h.create (.html "html") attributes).exists_eq
  simp only [Builder.openRoot, hr, hb]
  exact (h.push e).putAt _ _

theorem openHead (attributes : List Attribute) :
    InStep (fun d => (r d).openHead attributes) (b.openHead attributes) :=
  (h.openElement _ _).control (f := fun b => { b with head := b.openElements.head? }) fun _ _ => rfl

theorem repeatedHtml (t : Tag) : InStep (fun d => (r d).repeatedHtml t) (b.repeatedHtml t) := by
  have h := h.unexpected
  simp only [Builder.repeatedHtml, h.hasOpen, h.rootElement]
  split
  · exact h
  · split
    · exact h.addAttributes _ _
    · exact h

theorem openForeign (space : Namespace) (t : Tag) :
    Agree (fun d => (r d).openForeign space t) (b.openForeign space t) := by
  obtain ⟨r, b, e, hr, hb, h⟩ :=
    (h.insert ⟨space, t.name⟩ (t.attributes.map (localAttribute space))).exists_eq
  simp only [Builder.openForeign, hr, hb]
  exact .ite h.closed (h.push e).done

/-! ## Rules -/

theorem headTag (t : Tag) : Agree (fun d => (r d).headTag t) (b.headTag t) :=
  .ite (h.insertEmpty t).closed <| .ite (h.openRaw t _) <| .ite (h.openRaw t _) <| .ite (h.openRaw t _) <|
    .ite (h.openTemplate t).done <| .ite h.closeTemplate.done h.done

theorem lateHeadTag (t : Tag) : Agree (fun d => (r d).lateHeadTag t) (b.lateHeadTag t) := by
  have h := h.unexpected
  simp only [Builder.lateHeadTag, h.head]
  split
  · exact h.headTag t
  · next head _ =>
    obtain ⟨r, b, v, hr, hb, h⟩ := ((h.push head).headTag t).exists_eq
    simp only [hr, hb]
    exact (h.close head.id).agree v

theorem expectOldRules :
    InStep (fun d => { (r d).unexpected with oldRules := true }) { b.unexpected with oldRules := true } :=
  h.unexpected.control (f := fun b => { b with oldRules := true }) fun _ _ => rfl

theorem initial (t : Token) : Agree (fun d => (r d).initial t) (b.initial t) := by
  cases t with
  | text cs => exact .ite h.done (h.expectOldRules.again _)
  | comment => exact (h.putCommentIn _).done
  | _ => exact h.expectOldRules.again _

theorem beforeHtml (t : Token) : Agree (fun d => (r d).beforeHtml t) (b.beforeHtml t) := by
  have hroot := (h.openRoot []).again .beforeHead
  cases t with
  | comment => exact (h.putCommentIn _).done
  | text cs => exact .ite h.done hroot
  | tag t => exact .ite ((h.openRoot _).enter _).done <| .ite h.unexpected.done hroot
  | _ => exact hroot

theorem beforeHead (t : Token) : Agree (fun d => (r d).beforeHead t) (b.beforeHead t) := by
  have hhead := (h.openHead []).again .inHead
  cases t with
  | text cs => exact .ite h.done hhead
  | comment => exact h.putComment.done
  | tag t =>
    exact .ite (h.repeatedHtml t).done <| .ite ((h.openHead _).enter _).done <| .ite h.unexpected.done hhead
  | _ => exact hhead

theorem inHead (t : Token) : Agree (fun d => (r d).inHead t) (b.inHead t) := by
  have hend := h.pop.again .afterHead
  cases t with
  | text cs => exact .ite h.putText.done hend
  | comment => exact h.putComment.done
  | tag t =>
    exact .ite (h.repeatedHtml t).done <| .ite (h.headTag t) <| .ite (h.pop.enter _).done <|
      .ite h.unexpected.done hend
  | _ => exact hend

theorem afterHead (t : Token) : Agree (fun d => (r d).afterHead t) (b.afterHead t) := by
  have hbody := (h.openImplied "body").again .inBody
  cases t with
  | text cs => exact .ite h.putText.done hbody
  | comment => exact h.putComment.done
  | tag t =>
    exact .ite (h.repeatedHtml t).done <| .ite ((h.openTag t).keepBody.enter _).done <|
      .ite ((h.openTag t).enter _).done <| .ite (h.lateHeadTag t) <| .ite (h.headTag t) <|
      .ite h.unexpected.done hbody
  | _ => exact hbody

end UsedCss.Html.Builder.InStep
