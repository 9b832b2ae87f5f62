import UsedCss.Proofs.Css.Nesting
import UsedCss.Proofs.Css.Rescan
/-!
# Well-nested sheets

A sheet whose code never closes more than it opens, and has no comment opener, is never refused
(`filter_of_wellNested`). The point is the second scan inside a media block: the lines of its body are as
deep as the block's own lines less one, so no line of the body ends below its outer level, and the body
ends where it starts.
-/

namespace UsedCss.Css

open UsedCss.Text

variable {layout : Layout} {p q : Progress} {text a b r css : List Char} {ls : List (List Char)}
  {cs : List Construct} {target : ClassSet}

/-! ## The body of a block -/

/-- A text with a brace that nests and closes what it opens is a header without braces, a body that
nests inside the block, and an end without braces. -/
theorem exists_block (hn : Nests 0 text) (h0 : braceDelta text = 0) (ho : '{' ∈ text) :
    ∃ a b r, text = a ++ '{' :: (b ++ '}' :: r) ∧ Braceless a ∧ Braceless r ∧ braceDelta b = 0 ∧
      Nests 1 b := by
  have hopen : braceDelta ['{'] = 1 := rfl
  have hclose : braceDelta ['}'] = -1 := rfl
  obtain ⟨a, inner, rfl, ha⟩ := List.eq_append_cons_of_mem ho
  rw [List.append_cons, nests_append, nests_append] at hn
  rw [List.append_cons, braceDelta_append, braceDelta_append, hopen] at h0
  obtain ⟨⟨hna, -⟩, hinner⟩ := hn
  have hba : Braceless a := braceless_of_delta ha (by simpa using hna.end_nonneg)
  rw [braceDelta_append, hba.delta, hopen] at hinner
  rw [hba.delta] at h0
  have hc : '}' ∈ inner := by
    by_contra hc
    rw [braceDelta_eq_count, List.count_eq_zero.2 hc] at h0
    omega
  obtain ⟨b, r, hr, rfl⟩ := eq_append_cons_last hc
  rw [List.append_cons, nests_append, nests_append] at hinner
  rw [List.append_cons, braceDelta_append, braceDelta_append, hclose] at h0
  obtain ⟨⟨hb, hend⟩, hrest⟩ := hinner
  -- the last closing brace leads no deeper than the outer level, and after it nothing closes
  have hend := hend.end_nonneg
  have hcount : braceDelta r = r.count '{' := by
    rw [braceDelta_eq_count, List.count_eq_zero.2 hr]
    omega
  rw [hclose] at hend
  have hr0 : r.count '{' = 0 := by omega
  exact ⟨a, b, r, rfl, hba, ⟨List.count_eq_zero.1 hr0, hr⟩, by omega, hb⟩

/-- Reading the body of a block by lines keeps its braces, if no comment starts in it. -/
theorem braces_lines_body {b : List Char} (h : occurs commentOpen b = false) :
    braces (stripLines false (lines (trim b))).flatten = braces b := by
  rw [← braces_codeLines .body, texts_codeLines_body h]
  exact (braces_map_shape .body _).trans (braces_filledLines b)

/-- Inside the block of a construct, no line of the body ends below the body's outer level. -/
theorem depth_body_nonneg (h : Complete .sheet .atRule ls) (hline : ∀ l ∈ ls, '\n' ∉ l)
    (e : joinWith ['\n'] ls = a ++ '{' :: (b ++ '}' :: r)) (ha : Braceless a) (hb : braceDelta b = 0) :
    ∀ m, m <+: filledLines b → 0 ≤ depth m := by
  obtain ⟨head, l, rest, rfl, ho, hc⟩ := h
  obtain ⟨g, g', rfl, -, rfl, hbody⟩ := exists_cut_header ho ha.1 e
  have hg : braceDelta (g ++ '{' :: g') = 1 + braceDelta g' := by
    have hopen : braceDelta ['{'] = 1 := rfl
    have hsub : g ⊆ joinWith ['\n'] (head ++ [g]) := (infix_joinWith ['\n'] (by simp)).subset
    rw [List.append_cons, braceDelta_append, braceDelta_append, hopen, (ha.of_subset hsub).delta]
    omega
  have hpieces : pieces (· == '\n') (b ++ '}' :: r) = g' :: rest := by
    rw [hbody]
    refine pieces_joinWith (by simp) (List.forall_mem_cons.2 ⟨fun hn => ?_, fun x hx => ?_⟩)
    · exact hline (g ++ '{' :: g') (by simp) (by simp [hn])
    · exact hline x (by simp [hx])
  have htotal : depth (pieces (· == '\n') b) = 0 := by
    rw [← depth_filled, ← hb]
    exact depth_filledLines b
  rw [show filledLines b = filled (pieces (· == '\n') b) from rfl, depth_prefix_filled]
  intro m hm
  -- the last line of the body may be cut, the others are lines of the block
  rw [← List.dropLast_append_getLast (pieces_ne_nil (· == '\n') b), List.prefix_concat_iff] at hm
  rcases hm with rfl | hm
  · rw [List.dropLast_append_getLast]
    exact Int.le_of_eq htotal.symm
  obtain ⟨x, xs, hx⟩ := exists_pieces_append (· == '\n') b ('}' :: r)
  obtain ⟨t, ht⟩ := hm
  rw [hpieces, ← ht] at hx
  cases m with
  | nil => exact Int.le_refl 0
  | cons y k =>
    rw [List.cons_append, List.cons_append, List.cons.injEq] at hx
    obtain ⟨rfl, rfl⟩ := hx
    have := hc.2 k ⟨t ++ x :: xs, by simp⟩ (by simp)
    rw [depth_cons]
    omega

/-! ## The scan of the body -/

/-- A run holds lines at its end as it did at its start. -/
theorem Held.run {ls ms : List (List Char × Nat)} (h : Held layout ls p)
    (hr : p.run layout ms = .ok (cs, q)) : ∃ xs, Held layout xs q := by
  induction ms generalizing ls p cs with
  | nil =>
    obtain ⟨-, rfl⟩ : [] = cs ∧ p = q := by simpa [Progress.run] using hr
    exact ⟨ls, h⟩
  | cons l ms ih =>
    obtain ⟨c, p', ds, hs, hrest, -⟩ := run_cons_eq_ok.1 hr
    have after : ∀ {xs}, Effect layout xs c p' → ∃ xs, Held layout xs q := by
      intro xs he
      cases he with
      | held h => exact ih h hrest
      | completes _ => exact ih held_none hrest
      | statement _ _ _ => exact ih held_none hrest
    rcases h.step hs with he | ⟨-, -, he⟩
    · exact after he
    · exact after he

/-- At the outer level of a body nothing is open. -/
theorem Held.between {ls : List (List Char × Nat)} (h : Held .body ls q) (hd : q.depth = 0) :
    ∃ pending n, q = .between pending n := by
  cases h with
  | selectors _ => exact ⟨_, _, rfl⟩
  | header _ hat =>
    obtain ⟨l, -, hl⟩ := hat
    cases hl
  | @block kind head l rest e ho hopen =>
    -- inside a block the depth is that of the lines held, which stay open
    have hpos := hopen rest List.prefix_rfl
    have hdepth : (Progress.inBlock kind (texts ls).reverse (depth (texts ls)) (firstNumber ls)).depth =
        depth (texts ls) := by cases kind <;> rfl
    rw [hdepth, e, depth_append, depth_cons, depth_braceless ho.braceless] at hd
    omega

/-- A body without comments, no line of which ends below its outer level and which ends there, is
scanned to its end, with nothing open. -/
theorem feedAll_body (hc : occurs commentOpen b = false) (hb : braceDelta b = 0)
    (hd : ∀ m, m <+: filledLines b → 0 ≤ depth m) :
    ∃ found s, (Scanner.start .body).feedAll [] (lines (trim b)) = .ok (found, s) ∧ s.phase = .neutral := by
  have hcode : texts (codeLines .body (trim b)) = (filledLines b).map trim := texts_codeLines_body hc
  have htrim : (filledLines b).map braceDelta = ((filledLines b).map trim).map braceDelta := by simp
  obtain ⟨found, q, hrun⟩ := (run_ok_iff .none (codeLines .body (trim b))).2 fun m hm _ => by
    rw [hcode] at hm
    simpa [Progress.depth, Progress.none] using depth_prefix_congr htrim hd m hm
  have hq : q.depth = 0 := by
    rw [run_depth hrun, hcode, depth_map_trim, depth_filledLines, hb]
    rfl
  obtain ⟨xs, hheld⟩ := held_none.run hrun
  obtain ⟨pending, n, rfl⟩ := hheld.between hq
  have hinside : endsInside false (lines (trim b)) = false := endsInside_of_no_comment fun l hl =>
    occurs_part ((mem_lines hl).2.trans (trim_isInfix b)) hc
  refine ⟨found, ⟨.body, .between pending n, false, (lines (trim b)).length⟩, ?_, rfl⟩
  rw [codeLines] at hrun
  rw [feedAll_eq]
  simp only [Scanner.start, hrun, Except.map, hinside, Nat.zero_add, List.reverse_nil, List.nil_append]

/-! ## Filtering -/

/-- The at-rule of a well-nested sheet without comment openers is a header without braces, a body without
comment openers that nests inside the block, and an end without braces. -/
theorem exists_atRuleBlock (hc : ∀ l ∈ stripLines false (lines css), occurs commentOpen l = false)
    (hn : WellNested (joinWith ['\n'] (stripLines false (lines css)))) (h : scan .sheet css = .ok cs)
    {c : Construct} (hmem : c ∈ cs) (hat : c.kind = .atRule) :
    ∃ a b r, c.text = a ++ '{' :: (b ++ '}' :: r) ∧ Braceless a ∧ Braceless r ∧ braceDelta b = 0 ∧
      Nests 1 b ∧ occurs commentOpen b = false ∧ ∀ m, m <+: filledLines b → 0 ≤ depth m := by
  obtain ⟨before, ls, after, hcode, -, hcomplete, e⟩ := exists_lines h hmem
  rw [hat] at hcomplete
  have hline : ∀ l ∈ ls, '\n' ∉ l := by
    intro l hl
    have hl : l ∈ texts (codeLines .sheet css) := by
      rw [hcode]
      simp [hl]
    obtain ⟨m, -, -, hnl, rfl⟩ := mem_codeLines hl
    exact hnl
  have ho : '{' ∈ c.text := by
    obtain ⟨l, hl, hbrace⟩ := hcomplete.balanced.1
    rw [e]
    exact (infix_joinWith _ hl).mem hbrace
  obtain ⟨a, b, r, htext, ha, hr, hb, hnb⟩ :=
    exists_block (nests_construct h (wellNested_joinWith.1 hn) c hmem) (braceDelta_construct h c hmem) ho
  have hno : occurs commentOpen b = false := by
    refine occurs_part ?_ (occurs_construct h hc c hmem)
    rw [htext]
    exact ⟨a ++ ['{'], '}' :: r, by simp⟩
  have hcut : joinWith ['\n'] ls = a ++ '{' :: (b ++ '}' :: r) := e.symm.trans htext
  exact ⟨a, b, r, htext, ha, hr, hb, hnb, hno,
    depth_body_nonneg hcomplete hline hcut ha hb⟩

/-- The body of an at-rule of such a sheet is scanned to its end, with nothing open. -/
theorem feedAll_atRule (hc : ∀ l ∈ stripLines false (lines css), occurs commentOpen l = false)
    (hn : WellNested (joinWith ['\n'] (stripLines false (lines css)))) (h : scan .sheet css = .ok cs)
    {c : Construct} (hmem : c ∈ cs) (hat : c.kind = .atRule) :
    ∃ block, MediaBlock.ofText? c.text = some block ∧ ∃ found s,
      (Scanner.start .body).feedAll [] (lines block.body) = .ok (found, s) ∧ s.phase = .neutral := by
  obtain ⟨a, b, r, htext, ha, hr, hb, -, hno, hdepth⟩ := exists_atRuleBlock hc hn h hmem hat
  exact ⟨⟨trim a, trim b⟩, by rw [htext, ofText?_append ha.1 hr.2], feedAll_body hno hb hdepth⟩

theorem exists_accepted (h : ∀ c ∈ cs, ∃ r, prune target c = .ok r) : ∃ ts, Accepted target cs ts := by
  induction cs with
  | nil => exact ⟨[], .nil⟩
  | cons c cs ih =>
    rw [List.forall_mem_cons] at h
    obtain ⟨ts, hts⟩ := ih h.2
    obtain ⟨r, hr⟩ := h.1
    cases r with
    | none => exact ⟨ts, .drop hr hts⟩
    | some t => exact ⟨_, .keep hr hts⟩

/-- A sheet whose code is well nested and has no comment opener is filtered for every target set. Every
at-rule of it is a block that pruning does not refuse, and the scan of whose body ends with no rule
open. -/
theorem filter_of_wellNested (hc : ∀ l ∈ stripLines false (lines css), occurs commentOpen l = false)
    (hn : WellNested (joinWith ['\n'] (stripLines false (lines css)))) :
    (∀ target, ∃ o, filter css target { maxBytes := none } = .ok o) ∧
      ∃ cs, scan .sheet css = .ok cs ∧ ∀ c ∈ cs, c.kind = .atRule →
        (∀ target, ∃ r, pruneBlock c.text target = .ok r) ∧
        ∃ block, MediaBlock.ofText? c.text = some block ∧ ∃ found s,
          (Scanner.start .body).feedAll [] (lines block.body) = .ok (found, s) ∧ s.phase = .neutral := by
  have hlines : ∀ m, m <+: stripLines false (lines css) → 0 ≤ depth m := by
    rintro m ⟨t, ht⟩
    have hflat := wellNested_joinWith.1 hn
    rw [← ht, List.flatten_append, nests_append] at hflat
    simpa [depth] using hflat.1.end_nonneg
  obtain ⟨cs, hscan⟩ := exists_scan_iff.2 hlines
  have hblock : ∀ c ∈ cs, c.kind = .atRule → ∀ target, ∃ r, pruneBlock c.text target = .ok r := by
    intro c hmem hat target
    obtain ⟨block, hb, found, s, hfeed, -⟩ := feedAll_atRule hc hn hscan hmem hat
    refine exists_pruneBlock target fun block' hb' => ?_
    obtain rfl : block = block' := by rw [hb] at hb'; cases hb'; rfl
    exact ⟨found, scan_of_feedAll hfeed⟩
  refine ⟨fun target => ?_, cs, hscan, fun c hmem hat =>
    ⟨hblock c hmem hat, feedAll_atRule hc hn hscan hmem hat⟩⟩
  have hprune : ∀ c ∈ cs, ∃ r, prune target c = .ok r := by
    intro c hmem
    cases hk : c.kind with
    | rule => exact ⟨_, prune_rule hk⟩
    | atRule =>
      obtain ⟨r, hr⟩ := hblock c hmem hk target
      exact ⟨r, prune_eq_ok_iff.2 (.inr ⟨hk, hr⟩)⟩
  obtain ⟨ts, hts⟩ := exists_accepted hprune
  exact ⟨_, filter_eq_ok_iff.2 ⟨cs, ts, hscan, hts, rfl⟩⟩

/-- A block that closes in the middle of a line, where the scanner does not see it end. -/
theorem filter_of_wellNested_media :
    WellNested (joinWith ['\n'] (stripLines false
        (lines "@media p /* x */ \x7b\n.a \x7b y \x7d \x7d .b \x7b z \x7d".toList))) ∧
      (∃ o, filter "@media p /* x */ \x7b\n.a \x7b y \x7d \x7d .b \x7b z \x7d".toList
        (ClassSet.ofList ["a"]) { maxBytes := none } = .ok o) ∧
      ∃ block, MediaBlock.ofText? "@media p  \x7b\n.a \x7b y \x7d \x7d .b \x7b z \x7d".toList = some block ∧
        ∃ found s, (Scanner.start .body).feedAll [] (lines block.body) = .ok (found, s) ∧
          s.phase = .neutral := by
  have hall : ∀ m ∈ (joinWith ['\n'] (stripLines false
      (lines "@media p /* x */ \x7b\n.a \x7b y \x7d \x7d .b \x7b z \x7d".toList))).inits,
      m.count '}' ≤ m.count '{' := by decide +kernel
  have hn : WellNested (joinWith ['\n'] (stripLines false
      (lines "@media p /* x */ \x7b\n.a \x7b y \x7d \x7d .b \x7b z \x7d".toList))) := fun m hm =>
    hall m ((List.mem_inits m _).2 hm)
  obtain ⟨hfilter, cs, hscan, hblock⟩ := filter_of_wellNested (by decide +kernel) hn
  have hcs : scan .sheet "@media p /* x */ \x7b\n.a \x7b y \x7d \x7d .b \x7b z \x7d".toList =
      .ok [⟨.atRule, "@media p  \x7b\n.a \x7b y \x7d \x7d .b \x7b z \x7d".toList, 1⟩] := rfl
  rw [hcs] at hscan
  cases hscan
  exact ⟨hn, hfilter _, (hblock _ (List.mem_singleton_self _) rfl).2⟩

end UsedCss.Css
