import UsedCss.Html.Tree.Construct
import UsedCss.Proofs.Html.Tree.Rules
/-!
# Whole pages in step

Builders in step stay so over all tokens of a page. So there is one list of edits for each page: whatever
draft with one node the parser begins with, it takes these edits on it (`exists_edits`).
-/

namespace UsedCss.Html

/-- What `deliver` does with one token. -/
def deliverOne (rest : List Char) : Lexer × Builder → Token → Lexer × Builder
  | (lx, b), t => (lx.heedVerdict (b.take t).2 rest, (b.take t).1)

namespace Builder.InStep

variable {r : Fresh → Builder} {b : Builder}

/-! ## Tokens -/

theorem settle (h : InStep r b) (fuel : Nat) (t : Token) :
    Agree (fun d => (r d).settle fuel t) (b.settle fuel t) := by
  induction fuel generalizing r b with
  | zero => exact h.agree _
  | succ fuel ih =>
    -- the builders choose the same rule, so they come to the same verdict
    have hrule : Agree (fun d => if (r d).takesAsForeign t then (r d).inForeign t else (r d).rule t)
        (if b.takesAsForeign t then b.inForeign t else b.rule t) := by
      simp only [h.takesAsForeign]
      exact .ite (h.inForeign t) (h.rule t)
    obtain ⟨r, b, v, hr, hb, h⟩ := hrule.exists_eq
    simp only [Builder.settle, hr, hb]
    cases v with
    | again mode => exact ih (h.enter mode)
    | done =>
      cases t with
      | tag tag => exact ((h.report _).ite h).done
      | _ => exact h.done
    | _ => exact h.agree _

theorem patience (h : InStep r b) (d : Fresh) : (r d).patience = b.patience := h.reads (fun _ _ => rfl) d

theorem takeText (h : InStep r b) (fuel : Nat) (cs : List Char) :
    InStep (fun d => (r d).takeText fuel cs) (b.takeText fuel cs) := by
  induction fuel generalizing r b cs with
  | zero => exact h
  | succ fuel ih =>
    cases cs with
    | nil => exact h
    | cons c cs =>
      simp only [Builder.takeText, h.mode, h.takesAsForeign, h.patience]
      exact .ite (ih (h.settle _ _).inStep _) (h.settle _ _).inStep

theorem takeDoctype (h : InStep r b) (x : Doctype) :
    Agree
      (fun d =>
        if (r d).mode = .initial then
          ({ r d with oldRules := x.asksForOldRules, mode := .beforeHtml }, Verdict.done)
        else ((r d).report (.unexpectedDoctype (r d).mode), .done))
      (if b.mode = .initial then ({ b with oldRules := x.asksForOldRules, mode := .beforeHtml }, Verdict.done)
        else (b.report (.unexpectedDoctype b.mode), .done)) := by
  simp only [h.mode]
  have hfirst := h.control (f := fun b => { b with oldRules := x.asksForOldRules, mode := .beforeHtml })
    fun _ _ => rfl
  exact .ite hfirst.done (h.report _).done

theorem take (h : InStep r b) (t : Token) : Agree (fun d => (r d).take t) (b.take t) := by
  simp only [Builder.take, h.ignoreNewline]
  have h := h.control (f := fun b => { b with ignoreNewline := false }) fun _ _ => rfl
  cases t with
  | error e => exact (h.report e).done
  | doctype x => exact h.takeDoctype x
  | text cs => exact (h.takeText _ _).done
  | _ =>
    simp only [h.patience]
    exact h.settle _ _

/-! ## Pages -/

theorem deliverAll (h : InStep r b) (rest : List Char) (ts : List Token) (lx : Lexer) :
    ∃ r' b' lx', (∀ d, ts.foldl (deliverOne rest) (lx, r d) = (lx', r' d)) ∧
      ts.foldl (deliverOne rest) (lx, b) = (lx', b') ∧ InStep r' b' := by
  induction ts generalizing r b lx with
  | nil => exact ⟨r, b, lx, fun _ => rfl, rfl, h⟩
  | cons t ts ih =>
    obtain ⟨r, b, v, hr, hb, h⟩ := (h.take t).exists_eq
    simp only [List.foldl_cons, deliverOne, hr, hb]
    exact ih h _

theorem deliver (h : InStep r b) (lx : Lexer) (rest : List Char) :
    ∃ r' b' lx', (∀ d, Html.deliver lx (r d) rest = (lx', r' d)) ∧ Html.deliver lx b rest = (lx', b') ∧
      InStep r' b' :=
  h.deliverAll rest lx.out.reverse { lx with out := [] }

theorem parseFrom (h : InStep r b) (lx : Lexer) (cs : List Char) :
    InStep (fun d => Html.parseFrom lx (r d) cs) (Html.parseFrom lx b cs) := by
  induction cs generalizing r b lx with
  | nil =>
    obtain ⟨r, b, lx', hr, hb, h⟩ := h.deliver lx.finish []
    simp only [Html.parseFrom, hr, hb]
    exact h
  | cons c rest ih =>
    have hforeign (d : Fresh) : (r d).currentIsForeign = b.currentIsForeign := h.currentIs d _
    obtain ⟨r', b', lx', hr, hb, h'⟩ := h.deliver (lx.step b.currentIsForeign c rest) rest
    simp only [Html.parseFrom, hforeign, hr, hb]
    exact (ih h' _).ite (ih h _)

/-- Builders that have done nothing yet. -/
theorem start : InStep (fun d => { draft := d.1 }) {} := ⟨[], fun d => ⟨rfl, d.2⟩⟩

end Builder.InStep

/-- There are edits that the parser takes for a page, whatever draft with one node it begins with. -/
theorem exists_edits (html : List Char) : ∃ edits : List Edit, ∀ d : Draft, d.document.nodes.size = 1 →
    (parseFrom {} { draft := d } html).draft = edits.foldl Draft.apply d := by
  obtain ⟨edits, h⟩ := Builder.InStep.start.parseFrom {} html
  exact ⟨edits, fun d hd => congrArg Builder.draft (h ⟨d, hd⟩).1⟩

end UsedCss.Html
