import UsedCss.Proofs.Css.Alike
import UsedCss.Proofs.Css.Segment
/-!
# One text in both layouts

A text in which no line starts an at-rule block is cut at the same places as a sheet and as the body of
a media block: both scans fail at the same line, or they find rules on the same lines, those of the body
with trimmed and indented lines (`scan_layouts`).
-/

namespace UsedCss.Css

open UsedCss.Text

variable {css : List Char}

/-- A line of code of a sheet that starts no at-rule, and the line as a body keeps it. -/
structure BodyLine (l m : List Char) : Prop where
  oneLine : '\n' ∉ l
  filled : isBlankText l = false
  noAtRule : startsAtRule .sheet l = false
  trimmed : m = trim l

theorem readsAlike_bodyLine : ReadsAlike .sheet .body BodyLine := by
  rintro l _ ⟨-, -, hat, rfl⟩
  exact ⟨(trim_trim l).symm, hat⟩

/-- A body keeps the lines of a sheet, trimmed and under the same numbers. -/
theorem codeLines_body (css : List Char) :
    codeLines .body css = (codeLines .sheet css).map fun l => (trim l.1, l.2) := by
  rw [codeLines, codeLines, numberFilled, numberFilled, List.map_map]
  rfl

theorem startsAtRule_codeLines
    (h : ∀ l ∈ stripLines false (lines css), isBlockAtRule (trimStart l) = false) :
    ∀ l ∈ texts (codeLines .sheet css), startsAtRule .sheet l = false := by
  intro l hl
  obtain ⟨m, hm, -, -, e⟩ := mem_codeLines hl
  obtain rfl : l = m := e
  simpa [startsAtRule] using h l hm

theorem codeLines_bodyLine
    (h : ∀ l ∈ stripLines false (lines css), isBlockAtRule (trimStart l) = false) :
    List.Forall₂ (fun l m => BodyLine l.1 m.1 ∧ l.2 = m.2) (codeLines .sheet css)
      (codeLines .body css) := by
  rw [codeLines_body, List.forall₂_map_right_iff, List.forall₂_same]
  intro l hl
  have hmem : l.1 ∈ texts (codeLines .sheet css) := List.mem_map_of_mem hl
  obtain ⟨m, -, hb, hn, e⟩ := mem_codeLines hmem
  obtain rfl : l.1 = m := e
  exact ⟨⟨hn, hb, startsAtRule_codeLines h _ hmem, rfl⟩, rfl⟩

theorem bodyLines_eq {ls ms : List (List Char)} (h : List.Forall₂ BodyLine ls ms) :
    (∀ l ∈ ls, isBlankText l = false ∧ '\n' ∉ l) ∧ ms = ls.map trim := by
  induction h with
  | nil => simp
  | cons hl _ ih =>
    exact ⟨List.forall_mem_cons.2 ⟨⟨hl.filled, hl.oneLine⟩, ih.1⟩, by rw [hl.trimmed, ih.2, List.map_cons]⟩

/-- The text that a body joins from its lines is that of the sheet, line by line. -/
theorem Construct.Alike.text_body {c d : Construct}
    (h : Construct.Alike BodyLine Eq .sheet .body c d) :
    d.text = joinWith Layout.body.separator ((lines c.text).map trim) := by
  obtain ⟨ls, ms, hls, hc, hd⟩ := h.text
  obtain ⟨hfilled, rfl⟩ := bodyLines_eq hls
  rw [hc, hd, Layout.separator, lines_joinWith_map_trim hfilled]

/-- A text without lines that start at-rule blocks fails to scan in both layouts, at the same line, or in
none. Then it has the same rules in both, on the same lines, and a rule of the body is that of the sheet
with every line trimmed and all but the first indented. -/
theorem scan_layouts (h : ∀ l ∈ stripLines false (lines css), isBlockAtRule (trimStart l) = false) :
    Paired (fun e e' => e.line = e'.line)
      (List.Forall₂ fun c d => c.kind = .rule ∧ d.kind = .rule ∧ c.line = d.line ∧
        d.text = joinWith ['\n', ' ', ' ', ' ', ' '] ((lines c.text).map trim))
      (scan .sheet css) (scan .body css) := by
  refine (scan_alike readsAlike_bodyLine (codeLines_bodyLine h)).tagged.mono (fun _ _ e => e) ?_
  rintro cs ds ⟨hs, hall⟩
  have hkind := kind_of_scan (startsAtRule_codeLines h) hs
  refine ((List.forall₂_and_left _ _).2 ⟨hkind, hall⟩).imp ?_
  rintro c d ⟨hc, halike⟩
  exact ⟨hc, halike.kind.symm.trans hc, halike.line, halike.text_body⟩

/-- A statement, a selector on two lines and a comment that spans lines. -/
theorem scan_layouts_indented :
    (∀ l ∈ stripLines false (lines "@import x;\n.a,\n  .b \x7b /* c\n */ x: y;\n\x7d".toList),
      isBlockAtRule (trimStart l) = false) ∧
    scan .sheet "@import x;\n.a,\n  .b \x7b /* c\n */ x: y;\n\x7d".toList =
      .ok [⟨.rule, ".a,\n  .b \x7b\n x: y;\n\x7d".toList, 2⟩] ∧
    scan .body "@import x;\n.a,\n  .b \x7b /* c\n */ x: y;\n\x7d".toList =
      .ok [⟨.rule, ".a,\n    .b \x7b\n    x: y;\n    \x7d".toList, 2⟩] ∧
    Paired (fun e e' => e.line = e'.line)
      (List.Forall₂ fun c d => c.kind = .rule ∧ d.kind = .rule ∧ c.line = d.line ∧
        d.text = joinWith ['\n', ' ', ' ', ' ', ' '] ((lines c.text).map trim))
      (scan .sheet "@import x;\n.a,\n  .b \x7b /* c\n */ x: y;\n\x7d".toList)
      (scan .body "@import x;\n.a,\n  .b \x7b /* c\n */ x: y;\n\x7d".toList) :=
  ⟨by decide, by rfl, by rfl, scan_layouts (by decide)⟩

end UsedCss.Css
