import UsedCss.Html.Tree.Builder
import UsedCss.Proofs.Html.Run
/-!
# Builders in step

A builder never looks at the draft that it works on. So builders that begin with different drafts, each with
one node in its store, take the same steps on them and agree in all else. `InStep` says so of builders on
their way and `Agree` of functions that also give something else, and here is a lemma for each question and
each small step that the rules share. The proof for a rule has the shape of the rule: first what it asks is
asked of `b`, then there is an `ite` for each test.
-/

namespace UsedCss.Html

/-! ## How many nodes a step makes -/

/-- How many nodes are made for a child. -/
def Child.made : Child → Nat
  | .node _ => 0
  | .text => 1

namespace Draft

@[simp] theorem size_nodeOf (d : Draft) (child : Child) :
    (d.nodeOf child).1.document.nodes.size = d.document.nodes.size + child.made := by
  cases child with
  | node n => rfl
  | text => exact Document.size_create ..

theorem size_append (d : Draft) (p : NodeId) (child : Child) :
    (d.append p child).document.nodes.size = d.document.nodes.size + child.made := by
  show ((d.nodeOf child).1.document.append p (d.nodeOf child).2).nodes.size = _
  rw [Document.size_append, size_nodeOf]

theorem size_appendByParent (d : Draft) (element previous : NodeId) (child : Child) :
    (d.appendByParent element previous child).document.nodes.size = d.document.nodes.size + child.made := by
  rw [appendByParent]
  split
  · next h =>
    rw [appendBefore, if_pos h]
    show ((d.nodeOf child).1.document.insertBefore element (d.nodeOf child).2).nodes.size = _
    rw [Document.size_insertBefore, size_nodeOf]
  · exact size_append ..

end Draft

/-! ## Builders in step -/

/-- A draft with one node in its store, whatever has been reported or made before. -/
abbrev Fresh := { d : Draft // d.document.nodes.size = 1 }

namespace Builder

variable {r : Fresh → Builder} {b : Builder} {α : Type}

/-- The builder with another draft. -/
def on (b : Builder) (d : Draft) : Builder := { b with draft := d }

/-- Builders, one for each draft that they began with, that have taken the same steps on their drafts and
agree with `b` in all else: in what they remember and in the number of nodes. -/
def InStep (r : Fresh → Builder) (b : Builder) : Prop :=
  ∃ edits : List Edit, ∀ d : Fresh, r d = b.on (edits.foldl Draft.apply d) ∧
    (r d).draft.document.nodes.size = b.draft.document.nodes.size

/-- Results in step: the builders are, and what they come with is the same. -/
structure Agree (r : Fresh → Builder × α) (s : Builder × α) : Prop where
  inStep : InStep (fun d => (r d).1) s.1
  same : ∀ d, (r d).2 = s.2

/-- What a function gives, opened for the function that goes on with it. -/
theorem Agree.exists_eq {r : Fresh → Builder × α} {s : Builder × α} (h : Agree r s) :
    ∃ r' b a, (∀ d, r d = (r' d, a)) ∧ s = (b, a) ∧ InStep r' b :=
  ⟨_, _, _, fun d => Prod.ext rfl (h.same d), rfl, h.inStep⟩

theorem modeFor_on (b : Builder) (d : Draft) (es : List OpenElement) : (b.on d).modeFor es = b.modeFor es := by
  induction es with
  | nil => rfl
  | cons e es ih =>
    rw [modeFor, modeFor, ih]
    rfl

theorem Agree.ite {r r' : Fresh → Builder × α} {s s' : Builder × α} {p : Prop} [Decidable p] (h : Agree r s)
    (h' : Agree r' s') : Agree (fun d => if p then r d else r' d) (if p then s else s') := by
  split
  · exact h
  · exact h'

namespace InStep

theorem size_eq (h : InStep r b) (d : Fresh) : (r d).draft.document.nodes.size = b.draft.document.nodes.size :=
  let ⟨_, hr⟩ := h
  (hr d).2

/-- Builders in step answer questions about anything but their drafts in the same way. -/
theorem reads (h : InStep r b) {q : Builder → α} (hq : ∀ b d, q (on b d) = q b) (d : Fresh) :
    q (r d) = q b := by
  obtain ⟨edits, hr⟩ := h
  rw [(hr d).1, hq]

/-- They stay in step where anything but the drafts changes. -/
theorem control (h : InStep r b) {f : Builder → Builder} (hf : ∀ b d, f (on b d) = (f b).on d) :
    InStep (fun d => f (r d)) (f b) := by
  obtain ⟨edits, hr⟩ := h
  -- what is the same for all drafts leaves the builder's own as it is
  have hdraft : ∀ b, (f b).draft = b.draft := fun b => (congrArg draft (hf b b.draft) :)
  refine ⟨edits, fun d => ⟨?_, ?_⟩⟩
  · show f (r d) = _
    rw [(hr d).1, hf]
  · rw [hdraft, hdraft, (hr d).2]

/-- They stay in step where all take one more step, if that step makes as many nodes on any draft. -/
theorem step (h : InStep r b) {e : Edit} {k : Nat}
    (he : ∀ d : Draft, (d.apply e).document.nodes.size = d.document.nodes.size + k) :
    InStep (fun d => (r d).onDraft (·.apply e)) (b.onDraft (·.apply e)) := by
  obtain ⟨edits, hr⟩ := h
  refine ⟨edits ++ [e], fun d => ⟨?_, ?_⟩⟩
  · show (r d).onDraft _ = _
    rw [(hr d).1, List.foldl_append]
    rfl
  · show ((r d).draft.apply e).document.nodes.size = (b.draft.apply e).document.nodes.size
    rw [he, he, (hr d).2]

theorem ite {r' : Fresh → Builder} {b' : Builder} {p : Prop} [Decidable p] (h : InStep r b)
    (h' : InStep r' b') : InStep (fun d => if p then r d else r' d) (if p then b else b') := by
  split
  · exact h
  · exact h'

theorem agree (h : InStep r b) (a : α) : Agree (fun d => (r d, a)) (b, a) := ⟨h, fun _ => rfl⟩

theorem done (h : InStep r b) : Agree (fun d => (r d).done) b.done := h.agree _

theorem closed (h : InStep r b) : Agree (fun d => (r d).closed) b.closed := h.agree _

theorem again (h : InStep r b) (mode : InsertionMode) : Agree (fun d => (r d).again mode) (b.again mode) :=
  h.agree _

/-! ## Questions -/

section Questions

variable (h : InStep r b) (d : Fresh)
include h

theorem mode : (r d).mode = b.mode := h.reads (fun _ _ => rfl) d

theorem returnMode : (r d).returnMode = b.returnMode := h.reads (fun _ _ => rfl) d

theorem templateModes : (r d).templateModes = b.templateModes := h.reads (fun _ _ => rfl) d

theorem tableText : (r d).tableText = b.tableText := h.reads (fun _ _ => rfl) d

theorem oldRules : (r d).oldRules = b.oldRules := h.reads (fun _ _ => rfl) d

theorem openElements : (r d).openElements = b.openElements := h.reads (fun _ _ => rfl) d

theorem formatting : (r d).formatting = b.formatting := h.reads (fun _ _ => rfl) d

theorem head : (r d).head = b.head := h.reads (fun _ _ => rfl) d

theorem form : (r d).form = b.form := h.reads (fun _ _ => rfl) d

theorem framesetOk : (r d).framesetOk = b.framesetOk := h.reads (fun _ _ => rfl) d

theorem ignoreNewline : (r d).ignoreNewline = b.ignoreNewline := h.reads (fun _ _ => rfl) d

theorem currentName : (r d).currentName = b.currentName := h.reads (fun _ _ => rfl) d

theorem currentIs (p : QName → Bool) : (r d).currentIs p = b.currentIs p :=
  h.reads (q := (·.currentIs p)) (fun _ _ => rfl) d

theorem hasOpen (name : String) : (r d).hasOpen name = b.hasOpen name :=
  h.reads (q := (·.hasOpen name)) (fun _ _ => rfl) d

theorem isInScope (ends : QName → Bool) (p : OpenElement → Bool) :
    (r d).isInScope ends p = b.isInScope ends p :=
  h.reads (q := (·.isInScope ends p)) (fun _ _ => rfl) d

theorem inScope (ends : QName → Bool) (name : String) : (r d).inScope ends name = b.inScope ends name :=
  h.isInScope d ends _

theorem body : (r d).body = b.body := h.reads (fun _ _ => rfl) d

theorem rootElement : (r d).rootElement = b.rootElement := h.reads (fun _ _ => rfl) d

theorem placeIn (target : OpenElement) : (r d).placeIn target = b.placeIn target :=
  h.reads (q := (·.placeIn target)) (fun _ _ => rfl) d

theorem properMode : (r d).properMode = b.properMode :=
  h.reads (q := Builder.properMode) (fun b d => modeFor_on b d b.openElements) d

theorem place : (r d).place = b.place := h.reads (fun _ _ => rfl) d

end Questions

/-! ## What is remembered -/

section Control

variable (h : InStep r b)
include h

theorem enter (mode : InsertionMode) : InStep (fun d => (r d).enter mode) (b.enter mode) :=
  h.control (f := (·.enter mode)) fun _ _ => rfl

theorem keepBody : InStep (fun d => (r d).keepBody) b.keepBody := h.control fun _ _ => rfl

theorem pop : InStep (fun d => (r d).pop) b.pop := h.control fun _ _ => rfl

theorem push (e : OpenElement) : InStep (fun d => (r d).push e) (b.push e) :=
  h.control (f := (·.push e)) fun _ _ => rfl

theorem popThrough (p : QName → Bool) : InStep (fun d => (r d).popThrough p) (b.popThrough p) :=
  h.control (f := (·.popThrough p)) fun _ _ => rfl

theorem popUntil (p : QName → Bool) : InStep (fun d => (r d).popUntil p) (b.popUntil p) :=
  h.control (f := (·.popUntil p)) fun _ _ => rfl

theorem popWhile (p : QName → Bool) : InStep (fun d => (r d).popWhile p) (b.popWhile p) :=
  h.control (f := (·.popWhile p)) fun _ _ => rfl

theorem close (id : NodeId) : InStep (fun d => (r d).close id) (b.close id) :=
  h.control (f := (·.close id)) fun _ _ => rfl

theorem impliedEnd : InStep (fun d => (r d).impliedEnd) b.impliedEnd := h.popWhile _

theorem impliedEndExcept (name : String) :
    InStep (fun d => (r d).impliedEndExcept name) (b.impliedEndExcept name) := h.popWhile _

theorem setTemplateMode (mode : InsertionMode) :
    InStep (fun d => (r d).setTemplateMode mode) (b.setTemplateMode mode) :=
  h.control (f := (·.setTemplateMode mode)) fun _ _ => rfl

theorem resetMode : InStep (fun d => (r d).resetMode) b.resetMode := by
  simp only [Builder.resetMode, h.properMode]
  exact h.enter _

end Control

/-! ## Steps on the draft -/

section Steps

variable (h : InStep r b)
include h

theorem report (e : ParseError) : InStep (fun d => (r d).report e) (b.report e) := by
  refine h.step (e := .report e) (k := 0) fun d => ?_
  rw [Draft.apply, Draft.document_report, Nat.add_zero]

theorem unexpected : InStep (fun d => (r d).unexpected) b.unexpected := by
  simp only [Builder.unexpected, h.mode]
  exact h.report _

theorem detach (n : NodeId) : InStep (fun d => (r d).edit (·.detach n)) (b.edit (·.detach n)) :=
  h.step (e := .detach n) (k := 0) fun _ => Document.size_detach ..

theorem reparent (n t : NodeId) :
    InStep (fun d => (r d).edit (·.reparent n t)) (b.edit (·.reparent n t)) :=
  h.step (e := .reparent n t) (k := 0) fun _ => Document.size_reparent ..

theorem addAttributes (n : NodeId) (attributes : List Attribute) :
    InStep (fun d => (r d).edit (·.addAttributes n attributes)) (b.edit (·.addAttributes n attributes)) :=
  h.step (e := .addAttributes n attributes) (k := 0) fun _ => Document.size_addAttributes ..

theorem append (p c : NodeId) : InStep (fun d => (r d).edit (·.append p c)) (b.edit (·.append p c)) :=
  h.step (e := .append p (.node c)) fun d => Draft.size_append d p (.node c)

theorem closeNamed (name : String) : InStep (fun d => (r d).closeNamed name) (b.closeNamed name) := by
  simp only [Builder.closeNamed, h.currentIs]
  exact (h.popThrough _).ite ((h.popThrough _).report _)

theorem closeParagraph : InStep (fun d => (r d).closeParagraph) b.closeParagraph :=
  (h.impliedEndExcept _).closeNamed _

theorem closeOpenParagraph : InStep (fun d => (r d).closeOpenParagraph) b.closeOpenParagraph := by
  simp only [Builder.closeOpenParagraph, h.inScope]
  exact h.closeParagraph.ite h

theorem putAt (place : Place) (child : Child) :
    InStep (fun d => (r d).putAt place child) (b.putAt place child) := by
  cases place with
  | inside n => exact h.step (e := .append n child) fun d => Draft.size_append d n child
  | beforeTable table previous =>
    refine h.step (e := .appendByParent table previous child) (k := child.made) fun d => ?_
    exact Draft.size_appendByParent d table previous child

theorem put (child : Child) : InStep (fun d => (r d).put child) (b.put child) := by
  simp only [Builder.put, h.place]
  exact h.putAt _ _

theorem putText : InStep (fun d => (r d).putText) b.putText := h.put _

/-- The handle to a new element is the number of nodes before it, which is the same in all drafts. -/
theorem create (name : QName) (attributes : List Attribute) :
    Agree (fun d => (r d).create name attributes) (b.create name attributes) where
  inStep := h.step (e := .createElement name attributes) fun _ => Document.size_create ..
  same d := congrArg (OpenElement.mk · name) (h.size_eq d)

theorem insert (name : QName) (attributes : List Attribute) :
    Agree (fun d => (r d).insert name attributes) (b.insert name attributes) := by
  obtain ⟨r, b, e, hr, hb, h⟩ := (h.create name attributes).exists_eq
  simp only [Builder.insert, hr, hb]
  exact (h.put _).agree e

theorem openElement (name : QName) (attributes : List Attribute) :
    InStep (fun d => (r d).openElement name attributes) (b.openElement name attributes) := by
  obtain ⟨r, b, e, hr, hb, h⟩ := (h.insert name attributes).exists_eq
  simp only [Builder.openElement, hr, hb]
  exact h.push e

theorem openTag (t : Tag) : InStep (fun d => (r d).openTag t) (b.openTag t) := h.openElement _ _

theorem insertEmpty (t : Tag) : InStep (fun d => (r d).insertEmpty t) (b.insertEmpty t) := (h.insert _ _).inStep

theorem openImplied (name : String) : InStep (fun d => (r d).openImplied name) (b.openImplied name) :=
  h.openElement _ _

theorem createComment : InStep (fun d => (r d).onDraft (·.createComment.1)) (b.onDraft (·.createComment.1)) :=
  h.step (e := .createComment) fun _ => Document.size_create ..

theorem createComment_snd (d : Fresh) : (r d).draft.createComment.2 = b.draft.createComment.2 := h.size_eq d

theorem putComment : InStep (fun d => (r d).putComment) b.putComment := by
  show InStep (fun d => ((r d).onDraft (·.createComment.1)).put (.node (r d).draft.createComment.2)) _
  simp only [h.createComment_snd]
  exact h.createComment.put _

theorem putCommentIn (parent : NodeId) : InStep (fun d => (r d).putCommentIn parent) (b.putCommentIn parent) := by
  show InStep (fun d =>
    ((r d).onDraft (·.createComment.1)).putAt (.inside parent) (.node (r d).draft.createComment.2)) _
  simp only [h.createComment_snd]
  exact h.createComment.putAt _ _

theorem openRaw (t : Tag) (kind : RawKind) : Agree (fun d => (r d).openRaw t kind) (b.openRaw t kind) :=
  ((h.openTag t).control (f := fun b => { b with mode := .text, returnMode := b.mode }) fun _ _ => rfl).agree _

theorem checkBodyEnd : InStep (fun d => (r d).checkBodyEnd) b.checkBodyEnd := by
  simp only [Builder.checkBodyEnd, h.openElements]
  split
  · exact h.report _
  · exact h

end Steps

end InStep

end Builder

end UsedCss.Html
