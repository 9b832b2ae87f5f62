import UsedCss.Proofs.Html.Growth
import UsedCss.Proofs.Html.Lexing
/-!
# Building the document of plain markup

Markup of nested elements is taken without complaint: its first tag brings the page, its head and its
body with it, every start tag puts one element below the innermost open one, and every end tag closes the
one that it belongs to. So the classes of the page are those of the markup.
-/

namespace UsedCss.Html

open UsedCss.Text Document

variable {d : Draft} {ids : List NodeId} {names : List String}

namespace Builder

/-- What is open inside of elements of the body, the innermost first. -/
def openDivs (ids : List NodeId) : List OpenElement :=
  ids.map (⟨·, .html "div"⟩) ++ [⟨3, .html "body"⟩, ⟨1, .html "html"⟩]

/-- The builder inside of elements of the body. -/
def inDivs (d : Draft) (ids : List NodeId) : Builder :=
  { draft := d, mode := .inBody, oldRules := true, openElements := openDivs ids, head := some ⟨2, .html "head"⟩ }

/-- The steps for a page with a head and a body and nothing in them. -/
def skeleton : List Edit :=
  [.createElement (.html "html") [], .append root (.node 1), .createElement (.html "head") [],
    .append 1 (.node 2), .createElement (.html "body") [], .append 1 (.node 3)]

/-- The page with a head and a body and nothing in them. -/
def bare : Draft := Draft.run skeleton

theorem grown_bare : bare.Grown [] := by
  have h : Draft.Lawful {} skeleton := by decide +kernel
  have hhtml : bare.document.Below 1 root := .single (by decide +kernel)
  have hempty : ∀ n < 4, ∀ e ∈ bare.document.element? n, e.classTokens = [] := by decide +kernel
  refine ⟨h.sound_run, rfl, by decide +kernel, fun n hn => ?_, fun t => ?_⟩
  · match n, hn with
    | 0, _ => exact .refl
    | 1, _ => exact hhtml
    | 2, _ => exact hhtml.tail (by decide +kernel)
    | 3, _ => exact hhtml.tail (by decide +kernel)
  · refine iff_of_false ?_ List.not_mem_nil
    rintro ⟨n, e, he, ht⟩
    rw [hempty n (Draft.lt_of_element? he) e he] at ht
    cases ht

/-! ## Tokens -/

/-- No paragraph is open. -/
theorem not_inScope_p : (inDivs d ids).inScope QName.endsButtonScope "p" = false := by
  have hfind : ∀ ids, (openDivs ids).find? (fun e => e.name.isHtml "p" || e.name.endsButtonScope) =
      some ⟨1, .html "html"⟩ := fun ids => by
    induction ids with
    | nil => rfl
    | cons n ids ih => exact ih
  have hopen : (inDivs d ids).openElements = openDivs ids := rfl
  rw [inScope, isInScope, hopen, hfind]
  rfl

/-- A start tag puts an element below the innermost open one. -/
theorem settle_open (fuel : Nat) (attributes : List Attribute) :
    settle (fuel + 1) (inDivs d ids) (.tag ⟨.start, "div", false, attributes⟩) =
      (inDivs (d.addElement (ids.headD 3) ⟨.html "div", attributes⟩) (d.document.nodes.size :: ids), .done) := by
  have hrule : (inDivs d ids).rule (.tag ⟨.start, "div", false, attributes⟩) =
      ((inDivs d ids).openBlock ⟨.start, "div", false, attributes⟩).done := rfl
  have hput : (inDivs d ids).openTag ⟨.start, "div", false, attributes⟩ =
      inDivs (d.addElement (ids.headD 3) ⟨.html "div", attributes⟩) (d.document.nodes.size :: ids) := by
    cases ids <;> rfl
  have hforeign : (inDivs d ids).takesAsForeign (.tag ⟨.start, "div", false, attributes⟩) = false := by
    cases ids <;> rfl
  -- a block ends an open paragraph, and there is none
  rw [settle, hforeign, if_neg Bool.false_ne_true, hrule, openBlock, closeOpenParagraph, not_inScope_p,
    if_neg Bool.false_ne_true, hput]
  rfl

/-- Such a tag is taken at once. -/
theorem take_open (attributes : List Attribute) :
    (inDivs d ids).take (.tag ⟨.start, "div", false, attributes⟩) =
      (inDivs (d.addElement (ids.headD 3) ⟨.html "div", attributes⟩) (d.document.nodes.size :: ids), .done) :=
  settle_open (8 * (openDivs ids).length + 31) attributes

/-- An end tag closes the innermost open element. -/
theorem take_close (n : NodeId) : (inDivs d (n :: ids)).take (.tag ⟨.close, "div", false, []⟩) =
    (inDivs d ids, .done) := rfl

/-- The page may end when all is closed. -/
theorem take_eof : (inDivs d []).take .eof = (inDivs d [], .done) := rfl

/-- The first start tag of a page brings what the page has around it. -/
theorem take_first_open (attributes : List Attribute) :
    take {} (.tag ⟨.start, "div", false, attributes⟩) =
      (inDivs bare []).take (.tag ⟨.start, "div", false, attributes⟩) :=
  calc take {} (.tag ⟨.start, "div", false, attributes⟩)
      = settle 27 (inDivs bare []) (.tag ⟨.start, "div", false, attributes⟩) := rfl
    _ = (inDivs bare []).take (.tag ⟨.start, "div", false, attributes⟩) :=
        (settle_open 26 attributes).trans (take_open attributes).symm

/-- So does the end of a page without a tag. -/
theorem take_first_eof : take {} .eof = (inDivs bare []).take .eof := rfl

end Builder

open Builder Lexer

/-! ## Markup -/

/-- The class names of a new element. -/
theorem classTokens_div (classes : List ClassToken) :
    Element.classTokens ⟨.html "div", [⟨"class", String.ofList (classValue classes)⟩]⟩ =
      classes.map (String.ofList ·.text) := by
  have hvalue : Element.classTokens ⟨.html "div", [⟨"class", String.ofList (classValue classes)⟩]⟩ =
      (words (String.ofList (classValue classes)).toList).map String.ofList := rfl
  rw [hvalue, String.toList_ofList, words_classValue, List.map_map]
  rfl

/-- Reading some markup anywhere in the body only adds elements with these class names: afterwards the same
elements are open, and the lexer is between tags. -/
def Adds (cs : List Char) (added : List String) : Prop :=
  ∀ (kind : TagKind) (last : Option String) (d : Draft) (ids : List NodeId) (names : List String)
    (rest : List Char), d.Grown names → ids.headD 3 < d.document.nodes.size →
    ∃ kind' last' d', Draft.Grown d' (names ++ added) ∧ d.document.nodes.size ≤ d'.document.nodes.size ∧
      parseFrom (resting kind last) (inDivs d ids) (cs ++ rest) =
        parseFrom (resting kind' last') (inDivs d' ids) rest

namespace Adds

variable {cs ds : List Char} {added more : List String}

theorem nil : Adds [] [] := fun kind last d _ names _ hd _ =>
  ⟨kind, last, d, (List.append_nil names).symm ▸ hd, Nat.le_refl _, rfl⟩

theorem append (h : Adds cs added) (h' : Adds ds more) : Adds (cs ++ ds) (added ++ more) := by
  intro kind last d ids names rest hd hids
  obtain ⟨kind₁, last₁, d₁, hd₁, hle₁, hparse₁⟩ := h kind last d ids names (ds ++ rest) hd hids
  obtain ⟨kind₂, last₂, d₂, hd₂, hle₂, hparse₂⟩ :=
    h' kind₁ last₁ d₁ ids (names ++ added) rest hd₁ (Nat.lt_of_lt_of_le hids hle₁)
  refine ⟨kind₂, last₂, d₂, ?_, Nat.le_trans hle₁ hle₂, ?_⟩
  · rwa [← List.append_assoc]
  · rw [List.append_assoc, hparse₁, hparse₂]

/-- The tags around some markup add one element, which is open while that markup is read. -/
theorem element (h : Adds cs added) (classes : List ClassToken) :
    Adds (openTag classes ++ (cs ++ closeTag)) (classes.map (String.ofList ·.text) ++ added) := by
  intro kind last d ids names rest hd hids
  let e : Element := ⟨.html "div", [⟨"class", String.ofList (classValue classes)⟩]⟩
  have hnew : (d.addElement (ids.headD 3) e).Grown (names ++ classes.map (String.ofList ·.text)) :=
    classTokens_div classes ▸ hd.addElement hids e
  -- what is inside goes below the new element, which is a node of the store by then
  obtain ⟨kind', last', d', hd', hle, hparse⟩ :=
    h .start (some "div") _ (d.document.nodes.size :: ids) _ (closeTag ++ rest) hnew (by simp)
  refine ⟨.close, last', d', ?_, ?_, ?_⟩
  · rwa [← List.append_assoc]
  · rw [Draft.size_addElement] at hle
    exact Nat.le_of_succ_le hle
  · rw [List.append_assoc, List.append_assoc, parseFrom_openTag (take_open _), hparse,
      parseFrom_closeTag (take_close _)]

end Adds

mutual

/-- The markup of elements adds these and all inside. -/
theorem Div.adds : (t : Div) → Adds t.render t.classNames
  | .mk classes inside => (adds_renderAll inside).element classes

theorem adds_renderAll : (ts : List Div) → Adds (renderAll ts) (allClassNames ts)
  | [] => .nil
  | t :: ts => t.adds.append (adds_renderAll ts)

end

/-! ## Pages -/

/-- A page without carriage returns has its newlines already. -/
theorem normalizeNewlines_of_not_mem {cs : List Char} (h : '\r' ∉ cs) : normalizeNewlines cs = cs := by
  have hfold : ∀ (f : Bool × List Char → Char → Bool × List Char),
      (∀ c ∈ cs, ∀ out, f (false, out) c = (false, c :: out)) →
      ∀ out, cs.foldl f (false, out) = (false, cs.reverse ++ out) := fun f => by
    clear h
    induction cs with
    | nil => exact fun _ _ => rfl
    | cons c cs ih =>
      intro hf out
      obtain ⟨hc, hcs⟩ := List.forall_mem_cons.1 hf
      rw [List.foldl_cons, hc, ih hcs, List.reverse_cons, List.append_assoc, List.singleton_append]
  rw [normalizeNewlines, hfold, List.append_nil, List.reverse_reverse]
  intro c hc out
  have hreturn : c ≠ '\r' := fun e => h (e ▸ hc)
  simp [hreturn]

theorem dropByteOrderMark_of_not_mem {cs : List Char} (h : '\uFEFF' ∉ cs) : dropByteOrderMark cs = cs := by
  rw [dropByteOrderMark]
  rintro cs rfl
  exact h List.mem_cons_self

/-- Markup is read as it is. -/
theorem dropByteOrderMark_normalizeNewlines_renderAll (forest : List Div) :
    dropByteOrderMark (normalizeNewlines (renderAll forest)) = renderAll forest := by
  have hnot : ∀ c, isVisible c = false → c ∉ renderAll forest := fun c hc hmem =>
    Bool.false_ne_true (hc.symm.trans (isVisible_of_mem_renderAll forest c hmem))
  rw [normalizeNewlines_of_not_mem (hnot _ (by decide)), dropByteOrderMark_of_not_mem (hnot _ (by decide))]

/-- A page of markup begins as if its head and body were there already. -/
theorem parseFrom_start (forest : List Div) :
    parseFrom (resting .start none) {} (renderAll forest) =
      parseFrom (resting .start none) (inDivs bare []) (renderAll forest) := by
  cases forest with
  | nil =>
    have heof : take {} .eof = (inDivs bare [], .done) := take_first_eof.trans take_eof
    rw [renderAll, parseFrom_nil heof, parseFrom_nil take_eof]
  | cons t ts =>
    obtain ⟨classes, inside⟩ := t
    rw [renderAll, Div.render, List.append_assoc, parseFrom_openTag ((take_first_open _).trans (take_open _)),
      parseFrom_openTag (take_open _)]

/-- A page of markup grows to a document with the classes of the markup. -/
theorem exists_parse_renderAll (forest : List Div) : ∃ d : Draft, d.Grown (allClassNames forest) ∧
    parse (renderAll forest) = ⟨d.document, d.reported⟩ := by
  obtain ⟨kind, last, d, hd, -, hparse⟩ :=
    adds_renderAll forest .start none bare [] [] [] grown_bare (by decide)
  rw [List.append_nil, ← parseFrom_start, parseFrom_nil take_eof] at hparse
  refine ⟨d, hd, ?_⟩
  rw [parse, dropByteOrderMark_normalizeNewlines_renderAll]
  exact congrArg (fun b : Builder => (⟨b.draft.document, b.draft.reported⟩ : Page)) hparse

end UsedCss.Html

namespace UsedCss

open UsedCss.Html

/-- Collecting from the markup of nested elements, with no limit and no tolerance for errors, gives the
class names of the markup. -/
theorem collect_renderAll (forest : List Div) :
    ∃ s, collect (renderAll forest) { maxBytes := none, strict := true } = .ok s ∧
      ∀ name, s.contains name = true ↔ name ∈ allClassNames forest := by
  obtain ⟨d, hd, hparse⟩ := exists_parse_renderAll forest
  have herrors : d.reported = [] := by rw [Draft.reported, hd.errors, List.reverse_nil]
  refine ⟨d.document.classes, ?_, hd.contains_iff⟩
  rw [collect, hparse, herrors]
  rfl

/-- Two trees, with classes more than once and an element without any. -/
theorem collect_renderAll_nested :
    let page : ClassToken := ⟨"page".toList, by decide, List.all_eq_true.1 rfl⟩
    let wide : ClassToken := ⟨"is-wide".toList, by decide, List.all_eq_true.1 rfl⟩
    let item : ClassToken := ⟨"item_2".toList, by decide, List.all_eq_true.1 rfl⟩
    let forest : List Div := [.mk [page, wide] [.mk [page, item] [], .mk [] [.mk [wide] []]], .mk [item] []]
    let html := ("<div class=\"page is-wide\"><div class=\"page item_2\"></div><div class=\"\">" ++
      "<div class=\"is-wide\"></div></div></div><div class=\"item_2\"></div>").toList
    renderAll forest = html ∧
      ∃ s, collect html { maxBytes := none, strict := true } = .ok s ∧
        ∀ name, s.contains name = true ↔ name = "page" ∨ name = "is-wide" ∨ name = "item_2" := by
  intro page wide item forest html
  have hhtml : renderAll forest = html := by decide +kernel
  have hnames : allClassNames forest = ["page", "is-wide", "page", "item_2", "is-wide", "item_2"] := by
    decide +kernel
  obtain ⟨s, hs, hcontains⟩ := collect_renderAll forest
  refine ⟨hhtml, s, hhtml ▸ hs, fun name => ?_⟩
  rw [hcontains, hnames]
  grind

end UsedCss
