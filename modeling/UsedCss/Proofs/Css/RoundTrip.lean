import UsedCss.Proofs.Css.Nesting
import UsedCss.Proofs.Css.Rescan
/-!
# Round trip of filtering

For a sheet whose code has no comment opener and no carriage return at the end of a line, and whose
braces never close more than they open, the output of filtering scans back to just the constructs
that were kept, and filtering it once more changes nothing.
-/

namespace UsedCss.Css

open UsedCss.Text

variable {target : ClassSet} {kind : Construct.Kind} {t css : List Char} {ls : List (List Char)}
  {block : MediaBlock} {rules : List (List (List Char))}

/-! ## Plain lines -/

/-- A line that is read back as it stands. -/
def Plain (l : List Char) : Prop := occurs commentOpen l = false ∧ l.getLast? ≠ some '\r'

theorem getLast?_ne_return_of_trimEnd {l : List Char} (h : trimEnd l = l) :
    l.getLast? ≠ some '\r' := by
  intro hl
  rw [← h] at hl
  exact absurd (isBlank_of_getLast?_trimEnd hl) (by decide)

theorem Plain.of_suffix {l m : List Char} (h : Plain m) (hlm : l <:+ m) : Plain l := by
  refine ⟨occurs_part hlm.isInfix h.1, fun hl => h.2 ?_⟩
  obtain ⟨w, rfl⟩ := hlm
  rw [List.getLast?_append, hl]
  rfl

theorem Plain.trimStart {l : List Char} (h : Plain l) : Plain (trimStart l) :=
  h.of_suffix (trimStart_isSuffix l)

theorem Plain.trimEnd {l : List Char} (h : Plain l) : Plain (trimEnd l) :=
  ⟨occurs_part (trimEnd_isPrefix l).isInfix h.1, getLast?_ne_return_of_trimEnd (trimEnd_trimEnd l)⟩

theorem plain_renderSheet {us : List (List Char)} (h : ∀ u ∈ us, ∀ l ∈ filledLines u, Plain l) :
    ∀ l ∈ filledLines (renderSheet us), Plain l := by
  rw [filledLines_renderSheet]
  refine forall_mem_modifyLast (fun _ hl => hl.trimEnd) (forall_mem_modifyHead (fun _ hl =>
    hl.trimStart) fun l hl => ?_)
  obtain ⟨u, hu, hl⟩ := List.mem_flatMap.1 hl
  exact h u hu l hl

/-- The code of a text with plain lines is the text. -/
theorem occurs_of_plain {o : List Char} (h : ∀ l ∈ filledLines o, Plain l) :
    occurs commentOpen o = false := by
  rw [occurs_filledLines rfl, List.any_eq_false]
  intro l hl
  simp [(h l hl).1]

theorem texts_codeLines_of_plain {o : List Char} (h : ∀ l ∈ filledLines o, Plain l) :
    texts (codeLines .sheet o) = filledLines o := by
  rw [texts_codeLines_sheet (occurs_of_plain h), filled_lines_eq fun l hl => (h l hl).2]

/-! ## Blocks of plain lines -/

namespace Rebuilt

/-- A line of a rule is a part of the text of the block, unless comments were taken out of it. -/
theorem line_isInfix (h : Rebuilt target ls block rules)
    (hls : ∀ l ∈ ls, occurs commentOpen l = false) {r : List (List Char)} (hr : r ∈ rules)
    {l : List Char} (hl : l ∈ r) :
    l <:+: joinWith ['\n'] ls := by
  obtain ⟨a, b, r', -, -, htext, hblock⟩ := exists_of_ofText? h.cut
  have hbody : block.body <:+: joinWith ['\n'] ls := by
    rw [hblock, htext]
    exact (trim_isInfix b).trans ⟨a ++ ['{'], '}' :: r', by simp⟩
  have hno : occurs commentOpen (joinWith ['\n'] ls) = false :=
    not_occurs_joinWith rfl (by simp) rfl hls
  obtain ⟨m, hm, -, -, rfl⟩ := mem_codeLines (h.code.subset (List.mem_flatten_of_mem hr hl))
  rw [stripLines_of_no_comment fun x hx => occurs_part ((mem_lines hx).2.trans hbody) hno] at hm
  exact (trim_isInfix m).trans ((mem_lines hm).2.trans hbody)

theorem plain (h : Rebuilt target ls block rules) (hc : Complete .sheet .atRule ls)
    (hf : ∀ l ∈ ls, isBlankText l = false ∧ '\n' ∉ l) (hp : ∀ l ∈ ls, Plain l)
    (hd : 0 ≤ braceDelta block.header) :
    Kept target .atRule (rebuilt block rules) ∧
      ∀ l ∈ filledLines (rebuilt block rules), Plain l := by
  obtain ⟨hs, hl, e, hh, hsuf⟩ := h.header hc hf hd
  have hno : occurs commentOpen (joinWith ['\n'] ls) = false :=
    not_occurs_joinWith rfl (by simp) rfl fun l hl => (hp l hl).1
  have hcomment : ∀ r ∈ rules, ∀ l ∈ r, occurs commentOpen l = false := fun r hr l hl =>
    occurs_part (h.line_isInfix (fun l hl => (hp l hl).1) hr hl) hno
  obtain ⟨hlines, hkept⟩ := h.kept e hh hcomment
  refine ⟨hkept, ?_⟩
  -- the header's lines and the rules' lines come from plain lines, the rest is printed
  rw [hlines]
  intro l hl'
  simp only [blockLines, List.mem_append, List.mem_cons, List.mem_map, List.not_mem_nil,
    or_false] at hl'
  rcases hl' with hm | rfl | ⟨m, hm, rfl⟩ | rfl
  · obtain ⟨m, hm, hlm⟩ := hsuf l hm
    exact (hp m hm).of_suffix hlm
  · have hlast : occurs commentOpen hl = false := by
      refine occurs_part ?_ hno
      obtain ⟨a, b, r, -, -, htext, hblock⟩ := exists_of_ofText? h.cut
      have hheader : block.header <:+: joinWith ['\n'] ls := by
        rw [hblock, htext]
        exact (trim_isInfix a).trans (List.prefix_append _ _).isInfix
      exact (e ▸ infix_joinWith ['\n'] (by simp) : hl <:+: block.header).trans hheader
    refine ⟨?_, by simp⟩
    rw [occurs_append_cons (by decide), hlast]
    rfl
  · obtain ⟨r, hr, hm⟩ := List.mem_flatten.1 hm
    obtain ⟨hb, -, ht⟩ := h.lines hr hm
    refine ⟨?_, ?_⟩
    · rw [occurs_of_blank_append rfl rfl]
      exact hcomment r hr m hm
    · refine getLast?_ne_return_of_trimEnd ?_
      rw [trimEnd_append hb, ← ht, trimEnd_trim]
  · exact ⟨rfl, by decide⟩

end Rebuilt

/-! ## Well-nested sheets -/

/-- In a well-nested sheet the header of no construct closes anything. -/
theorem header_nonneg (hn : WellNested (joinWith ['\n'] (stripLines false (lines css))))
    {cs : List Construct} (h : scan .sheet css = .ok cs) :
    ∀ c ∈ cs, ∃ ls, Complete .sheet c.kind ls ∧ c.text = joinWith ['\n'] ls ∧
      ls ⊆ texts (codeLines .sheet css) ∧
      ∀ block, MediaBlock.ofText? c.text = some block → 0 ≤ braceDelta block.header := by
  intro c hc
  obtain ⟨before, ls, after, hcode, -, hcomplete, e⟩ := exists_lines h hc
  refine ⟨ls, hcomplete, e, by rw [hcode]; simp, fun block hb => ?_⟩
  have hnest := nests_construct h (wellNested_joinWith.1 hn) c hc
  obtain ⟨a, b, r, -, -, htext, rfl⟩ := exists_of_ofText? hb
  rw [htext, nests_append] at hnest
  simpa using hnest.1.end_nonneg

/-! ## Round trip -/

theorem kept_and_plain (hls : ∀ l ∈ stripLines false (lines css), Plain l)
    (hn : WellNested (joinWith ['\n'] (stripLines false (lines css)))) {cs : List Construct}
    (h : scan .sheet css = .ok cs) {ts : List (Construct.Kind × List Char)}
    (ha : Accepted target cs ts) :
    ∀ x ∈ ts, Kept target x.1 x.2 ∧ ∀ l ∈ filledLines x.2, Plain l := by
  rintro ⟨kind, t⟩ hx
  obtain ⟨c, hc, rfl, hp⟩ := ha.exists_construct hx
  obtain ⟨ls, hcomplete, htext, hsub, hheader⟩ := header_nonneg hn h c hc
  obtain ⟨kind, text, n⟩ := c
  obtain rfl : text = joinWith ['\n'] ls := htext
  have hline : ∀ l ∈ ls, (isBlankText l = false ∧ '\n' ∉ l) ∧ Plain l := by
    intro l hl
    obtain ⟨m, hm, hb, hnl, rfl⟩ := mem_codeLines (hsub hl)
    exact ⟨⟨hb, hnl⟩, hls _ hm⟩
  rcases prune_eq_some hcomplete hp with ⟨rfl, hall⟩ | ⟨rfl, block, rules, hr, rfl⟩
  · obtain ⟨hlines, hkept⟩ := kept_of_lines hcomplete (fun l hl => (hline l hl).1) hall
    exact ⟨hkept, fun l hl => (hline l (hlines ▸ hl)).2⟩
  · exact hr.plain hcomplete (fun l hl => (hline l hl).1) (fun l hl => (hline l hl).2)
      (hheader block hr.cut)

/-- The output of filtering scans back to the accepted constructs, without their blank lines, the
first text left-trimmed and the last one right-trimmed, and the scan ends with nothing open or
pending. Filtering the output again returns it. -/
theorem filter_round_trip {o : List Char}
    (hls : ∀ l ∈ stripLines false (lines css), occurs commentOpen l = false ∧ l.getLast? ≠ some '\r')
    (hn : WellNested (joinWith ['\n'] (stripLines false (lines css))))
    (h : filter css target { maxBytes := none } = .ok o) :
    (∃ cs ts, scan .sheet css = .ok cs ∧ Accepted target cs ts ∧ o = renderSheet (ts.map Prod.snd) ∧
      ∃ found s, (Scanner.start .sheet).feedAll [] (lines o) = .ok (found, s) ∧ s.phase = .neutral ∧
        s.progress = .none ∧
        scan .sheet o = .ok found ∧ found.map Construct.kind = ts.map Prod.fst ∧
        found.map Construct.text = trimOuter (ts.map fun x => squeeze x.2)) ∧
      filter o target { maxBytes := none } = .ok o := by
  obtain ⟨cs, ts, hscan, hts, ho⟩ := filter_eq_ok_iff.1 h
  have hall := kept_and_plain hls hn hscan hts
  have hplain : ∀ l ∈ filledLines o, Plain l := by
    rw [ho]
    exact plain_renderSheet (List.forall_mem_map.2 fun x hx => (hall x hx).2)
  obtain ⟨found, hrun, hkind, htext, hfilter⟩ :=
    rescan_kept (fun x hx => (hall x hx).1) ho (texts_codeLines_of_plain hplain)
  have hinside : endsInside false (lines o) = false :=
    endsInside_of_no_comment fun l hl => occurs_part (mem_lines hl).2 (occurs_of_plain hplain)
  refine ⟨⟨cs, ts, hscan, hts, ho, found, ⟨.sheet, .none, false, (lines o).length⟩, ?_, rfl, rfl,
    scan_eq_ok_iff.2 ⟨_, hrun⟩, hkind, htext⟩, hfilter⟩
  rw [codeLines] at hrun
  rw [feedAll_eq]
  simp only [Scanner.start, hrun, Except.map, hinside, Nat.zero_add, List.reverse_nil,
    List.nil_append]

/-- A media block with a selector list on two lines. -/
theorem filter_round_trip_media :
    filter "@media p \x7b\n.b,\n.a \x7b z \x7d\n\x7d".toList (ClassSet.ofList ["a"]) { maxBytes := none } =
        .ok "@media p \x7b\n    .b,\n    .a \x7b z \x7d\n\x7d".toList ∧
      filter "@media p \x7b\n    .b,\n    .a \x7b z \x7d\n\x7d".toList (ClassSet.ofList ["a"]) { maxBytes := none } =
        .ok "@media p \x7b\n    .b,\n    .a \x7b z \x7d\n\x7d".toList := by
  have hn : WellNested (joinWith ['\n'] (stripLines false (lines "@media p \x7b\n.b,\n.a \x7b z \x7d\n\x7d".toList))) := by
    have hall : ∀ m ∈ (joinWith ['\n'] (stripLines false (lines "@media p \x7b\n.b,\n.a \x7b z \x7d\n\x7d".toList))).inits,
        m.count '}' ≤ m.count '{' := by decide +kernel
    intro m hm
    exact hall m ((List.mem_inits m _).2 hm)
  have h : filter "@media p \x7b\n.b,\n.a \x7b z \x7d\n\x7d".toList (ClassSet.ofList ["a"]) { maxBytes := none } =
      .ok "@media p \x7b\n    .b,\n    .a \x7b z \x7d\n\x7d".toList := by
    refine filter_eq_ok_iff.2 ⟨[⟨.atRule, "@media p \x7b\n.b,\n.a \x7b z \x7d\n\x7d".toList, 1⟩],
      [(.atRule, "@media p \x7b\n    .b,\n    .a \x7b z \x7d\n\x7d".toList)], rfl,
      .keep (prune_eq_ok_iff.2 (.inr ⟨rfl, ?_⟩)) .nil, rfl⟩
    have hb : MediaBlock.ofText? "@media p \x7b\n.b,\n.a \x7b z \x7d\n\x7d".toList =
        some ⟨"@media p".toList, ".b,\n.a \x7b z \x7d".toList⟩ := by decide +kernel
    have hs : scan .body ".b,\n.a \x7b z \x7d".toList = .ok [⟨.rule, ".b,\n    .a \x7b z \x7d".toList, 1⟩] := rfl
    have hi : includedRules (ClassSet.ofList ["a"]) [⟨.rule, ".b,\n    .a \x7b z \x7d".toList, 1⟩] =
        [".b,\n    .a \x7b z \x7d".toList] := by decide +kernel
    rw [pruneBlock_of_scan (by decide +kernel) hb (by decide) hs, hi]
    rfl
  exact ⟨h, (filter_round_trip (by decide +kernel) hn h).2⟩

end UsedCss.Css
