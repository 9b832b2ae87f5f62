import UsedCss.Proofs.Css.Shrink
/-!
# When filtering twice is filtering once

Filtering its own output changes it exactly when the output opens a comment, has a carriage return in
front of a newline, or has a line that ends below the outer level. A comment may come about when
another one is taken out between its two characters.
-/

namespace UsedCss.Css

open UsedCss.Text

variable {target : ClassSet} {css o : List Char} {ts : List (Construct.Kind × List Char)} {cs : List Construct}

/-! ## Lines below the outer level -/

theorem map_braceDelta_trimOuter (ls : List (List Char)) :
    (trimOuter ls).map braceDelta = ls.map braceDelta := by
  have e : ∀ ms : List (List Char), ms.map braceDelta = (ms.map trim).map braceDelta := by
    intro ms
    rw [List.map_map]
    exact List.map_congr_left fun l _ => (braceDelta_trim l).symm
  rw [e, map_trim_trimOuter, ← e]

/-- Texts that are kept unless they close more than they open are all kept, when no line ends below
the outer level. -/
theorem kept_of_depth (h : ∀ x ∈ ts, 0 ≤ braceDelta x.2 → Kept target x.1 x.2)
    (hd : ∀ m, m <+: ts.flatMap (fun x => filledLines x.2) → 0 ≤ depth m) :
    ∀ x ∈ ts, Kept target x.1 x.2 := by
  induction ts with
  | nil => simp
  | cons x ts ih =>
    rw [List.forall_mem_cons] at h
    rw [List.flatMap_cons] at hd
    have hx : Kept target x.1 x.2 :=
      h.1 (by rw [← depth_filledLines]; exact hd _ (List.prefix_append _ _))
    refine List.forall_mem_cons.2 ⟨hx, ih h.2 fun m hm => ?_⟩
    have := hd (filledLines x.2 ++ m) ((List.prefix_append_right_inj _).2 hm)
    rwa [depth_append, hx.complete.depth_eq, Int.zero_add] at this

/-! ## Idempotence -/

/-- What pruning leaves of a construct is kept, if no comment starts in it and it does not close more
than it opens. -/
theorem kept_of_prune (h : scan .sheet css = .ok cs) (ha : Accepted target cs ts)
    {x : Construct.Kind × List Char} (hx : x ∈ ts) (hc : occurs commentOpen x.2 = false)
    (hd : 0 ≤ braceDelta x.2) :
    Kept target x.1 x.2 := by
  obtain ⟨c, hmem, hk, hp⟩ := ha.exists_construct hx
  obtain ⟨before, ls, after, hcode, -, hcomplete, e⟩ := exists_lines h hmem
  obtain ⟨kind, text, n⟩ := c
  obtain ⟨kind', t⟩ := x
  obtain rfl : text = joinWith ['\n'] ls := e
  obtain rfl : kind = kind' := hk
  have hf : ∀ l ∈ ls, isBlankText l = false ∧ '\n' ∉ l := by
    intro l hl
    have hl : l ∈ texts (codeLines .sheet css) := by
      rw [hcode]
      simp [hl]
    obtain ⟨m, -, hb, hn, rfl⟩ := mem_codeLines hl
    exact ⟨hb, hn⟩
  rcases prune_eq_some hcomplete hp with ⟨rfl, hrest⟩ | ⟨rfl, block, rules, hr, rfl⟩
  · exact (kept_of_lines hcomplete hf hrest).2
  · obtain ⟨hs, hl, e, hh, -⟩ := hr.header hcomplete hf (by rwa [← hr.braceDelta_eq])
    exact (hr.kept e hh fun r hr l hl => occurs_part (Rebuilt.line_isInfix_rebuilt hr hl block)
      hc).2

/-- A text with a comment opener loses it when it is filtered. -/
theorem no_comment_of_fixed (h : filter o target { maxBytes := none } = .ok o) :
    occurs commentOpen o = false := by
  rw [Bool.eq_false_iff]
  intro hc
  -- the opener is not blank, and printing adds no characters but blanks
  have hfilter := countP_filter (p := fun c => !isBlank c) (by decide) (by decide) h
  have hlines := (total_lines (p := fun c => !isBlank c) (by decide) o).1
  rw [occurs_lines rfl, List.any_eq_true] at hc
  have hstrip := total_stripLines_lt (p := fun c => !isBlank c) (by decide) hc
  omega

/-- A text with a carriage return in front of a newline loses it when it is filtered. -/
theorem no_return_of_fixed (h : filter o target { maxBytes := none } = .ok o) :
    occurs ['\r', '\n'] o = false := by
  rw [Bool.eq_false_iff]
  intro hr
  have hfilter := countP_filter (p := (· == '\r')) rfl rfl h
  have hstrip := total_stripLines (p := (· == '\r')) false (lines o)
  have hlines := (total_lines (p := (· == '\r')) rfl o).2 rfl hr
  omega

/-- No line of a text that is scanned without an error ends below the outer level. -/
theorem depth_of_scan (hc : occurs commentOpen o = false) (h : scan .sheet o = .ok cs) :
    ∀ m, m <+: lines o → 0 ≤ depth m := by
  have hstrip : stripLines false (lines o) = lines o :=
    stripLines_of_no_comment fun l hl => occurs_part (mem_lines hl).2 hc
  rw [← hstrip]
  exact exists_scan_iff.1 ⟨cs, h⟩

/-- An output whose lines all end at the outer level or deeper consists of kept texts. -/
theorem kept_of_output (h : scan .sheet css = .ok cs) (ha : Accepted target cs ts)
    (ho : o = renderSheet (ts.map Prod.snd)) (hcomment : occurs commentOpen o = false)
    (hdepth : ∀ m, m <+: filledLines o → 0 ≤ depth m) :
    ∀ x ∈ ts, Kept target x.1 x.2 := by
  refine kept_of_depth (fun x hx hd => kept_of_prune h ha hx ?_ hd) ?_
  · rw [ho, occurs_renderSheet, List.any_eq_false] at hcomment
    exact Bool.eq_false_iff.2 (hcomment x.2 (List.mem_map_of_mem hx))
  · rw [ho, filledLines_renderSheet, List.flatMap_map] at hdepth
    exact depth_prefix_congr (map_braceDelta_trimOuter _) hdepth

/-- Filtering returns its own output if and only if the output opens no comment, has no carriage
return in front of a newline and no line that ends below the outer level. -/
theorem filter_output_iff (h : filter css target { maxBytes := none } = .ok o) :
    filter o target { maxBytes := none } = .ok o ↔
      occurs commentOpen o = false ∧ occurs ['\r', '\n'] o = false ∧ ∀ m, m <+: lines o →
        0 ≤ depth m := by
  constructor
  · intro hagain
    obtain ⟨cs, ts, hs, -, -⟩ := filter_eq_ok_iff.1 hagain
    have hcomment := no_comment_of_fixed hagain
    exact ⟨hcomment, no_return_of_fixed hagain, depth_of_scan hcomment hs⟩
  · -- the output has no line but its texts' filled lines, so these are scanned as they stand
    rintro ⟨hcomment, hreturn, hdepth⟩
    obtain ⟨cs, ts, hs, ha, ho⟩ := filter_eq_ok_iff.1 h
    have hlines : filled (lines o) = filledLines o := filled_lines_of_not_occurs hreturn
    rw [← depth_prefix_filled, hlines] at hdepth
    have hcode : texts (codeLines .sheet o) = filledLines o := by
      rw [texts_codeLines_sheet hcomment, hlines]
    obtain ⟨-, -, -, -, hfilter⟩ := rescan_kept (kept_of_output hs ha ho hcomment hdepth) ho hcode
    exact hfilter

/-- Where the output is read back as it stands. -/
theorem filter_output_iff_two_rules :
    filter ".a \x7b x \x7d\n.b \x7b y \x7d".toList (ClassSet.ofList ["a"]) { maxBytes := none } =
        .ok ".a \x7b x \x7d".toList ∧
      filter ".a \x7b x \x7d".toList (ClassSet.ofList ["a"]) { maxBytes := none } = .ok ".a \x7b x \x7d".toList := by
  have h : filter ".a \x7b x \x7d\n.b \x7b y \x7d".toList (ClassSet.ofList ["a"]) { maxBytes := none } =
      .ok ".a \x7b x \x7d".toList := by
    refine filter_eq_ok_iff.2 ⟨[⟨.rule, ".a \x7b x \x7d".toList, 1⟩, ⟨.rule, ".b \x7b y \x7d".toList, 2⟩],
      [(.rule, ".a \x7b x \x7d".toList)], rfl, .keep (prune_eq_ok_iff.2 (.inl ⟨rfl, ?_⟩))
      (.drop (prune_eq_ok_iff.2 (.inl ⟨rfl, ?_⟩)) .nil), rfl⟩
    · rw [if_pos (by decide +kernel)]
    · rw [if_neg (by decide +kernel)]
  have hd : ∀ m ∈ (lines ".a \x7b x \x7d".toList).inits, 0 ≤ depth m := by decide +kernel
  exact ⟨h, (filter_output_iff h).2 ⟨by decide, by decide, fun m hm => hd m ((List.mem_inits m _).2 hm)⟩⟩

/-- Taking out the empty comment makes another opener, so the second filtering finds no rule. -/
theorem filter_output_not_refiltered :
    filter ".a \x7b x: //**/* y; \x7d".toList (ClassSet.ofList ["a"]) { maxBytes := none } =
        .ok ".a \x7b x: /* y; \x7d".toList ∧
      filter ".a \x7b x: /* y; \x7d".toList (ClassSet.ofList ["a"]) { maxBytes := none } ≠
        .ok ".a \x7b x: /* y; \x7d".toList := by
  have hempty : filter ".a \x7b x: /* y; \x7d".toList (ClassSet.ofList ["a"]) { maxBytes := none } = .ok [] :=
    filter_eq_ok_iff.2 ⟨[], [], rfl, .nil, rfl⟩
  refine ⟨filter_eq_ok_iff.2 ⟨[⟨.rule, ".a \x7b x: /* y; \x7d".toList, 1⟩],
    [(.rule, ".a \x7b x: /* y; \x7d".toList)], rfl, .keep (prune_eq_ok_iff.2 (.inl ⟨rfl, ?_⟩)) .nil, rfl⟩, ?_⟩
  · rw [if_pos (by decide +kernel)]
  · rw [hempty]
    decide

end UsedCss.Css
