import UsedCss.Proofs.Css.Alike
import UsedCss.Proofs.Css.Comment
import UsedCss.Proofs.Css.Target
/-!
# Layout of a sheet

Indentation, blank lines and line endings have no part in what is kept. Taking out the comments
commutes with trimming, and a blank line leaves a comment as open as it was, so the trimmed lines of
a text say what its trimmed lines of code are (`trimmedCode`). Runs over lines of code that differ in
their blank ends stay in step, and all that is decided about a construct is decided by its trimmed
lines.
-/

namespace UsedCss.Css

open UsedCss.Text

variable {target : ClassSet} {inside : Bool} {a b u v w l css text text' : List Char} {c d : Construct}
  {cs ds : List Construct} {block block' : MediaBlock} {layout : Layout} {N : Nat → Nat → Prop}

/-! ## Trimmed code -/

/-- The lines of a text without their comments that are not blank, trimmed. -/
def trimmedCode (css : List Char) : List (List Char) :=
  (filled (stripLines false (lines css))).map trim

theorem map_trim_filled_cons (l : List Char) (ls : List (List Char)) :
    (filled (l :: ls)).map trim =
      if isBlankText l then (filled ls).map trim else trim l :: (filled ls).map trim := by
  cases h : isBlankText l <;> simp [filled, h]

/-- Before its comments are taken out, a text may be brought to its trimmed lines. -/
theorem map_trim_stripLines (inside : Bool) (ls : List (List Char)) :
    (filled (stripLines inside ls)).map trim =
      (filled (stripLines inside ((filled ls).map trim))).map trim := by
  induction ls generalizing inside with
  | nil => rfl
  | cons l ls ih =>
    cases h : isBlankText l with
    | true =>
      -- also inside of a comment, where the line would be cut out anyway
      obtain ⟨hb, hs⟩ := stripLine_of_blank inside h
      rw [stripLines, map_trim_filled_cons, map_trim_filled_cons, hb, hs, h]
      exact ih inside
    | false =>
      obtain ⟨ht, hs⟩ := stripLine_trim inside l
      have hb : isBlankText (stripLine inside (trim l)).1 = isBlankText (stripLine inside l).1 := by
        rw [← isBlankText_trim, ht, isBlankText_trim]
      have e : (filled (l :: ls)).map trim = trim l :: (filled ls).map trim := by
        rw [map_trim_filled_cons, h]
        rfl
      rw [e, stripLines, stripLines, map_trim_filled_cons, map_trim_filled_cons, hb, ht, hs, ih]

/-- So the trimmed lines of a text say what its trimmed code is. -/
theorem trimmedCode_congr (h : trimmedLines a = trimmedLines b) : trimmedCode a = trimmedCode b := by
  rw [trimmedCode, map_trim_stripLines, ← trimmedLines, h, trimmedLines, ← map_trim_stripLines,
    ← trimmedCode]

theorem map_trim_codeLines (layout : Layout) (css : List Char) :
    (codeLines layout css).map (fun l => trim l.1) = trimmedCode css := by
  have hshape : ∀ l, trim (layout.shape l) = trim l := fun l => by
    cases layout <;> [rfl; exact trim_trim l]
  have e : (codeLines layout css).map (fun l => trim l.1) = (texts (codeLines layout css)).map trim := by
    rw [texts, List.map_map]
    rfl
  rw [e, texts_codeLines, List.map_map, trimmedCode]
  exact List.map_congr_left fun l _ => hshape l

/-- A newline with a carriage return in front of it for every newline. -/
def withReturns (css : List Char) : List Char :=
  css.flatMap fun c => if c = '\n' then ['\r', '\n'] else [c]

theorem withReturns_of_line (h : '\n' ∉ l) : withReturns l = l := by
  have hc : ∀ c ∈ l, (if c = '\n' then ['\r', '\n'] else [c]) = [c] := fun c hc =>
    if_neg (ne_of_mem_of_not_mem hc h)
  rw [withReturns, List.flatMap_congr hc, List.flatMap_singleton']

/-- Line endings do not show in trimmed lines. -/
theorem trimmedLines_withReturns (css : List Char) :
    trimmedLines (withReturns css) = trimmedLines css := by
  induction css using lines_induction with
  | single l hl => rw [withReturns_of_line hl]
  | cons l rest hl ih =>
    have e : withReturns (l ++ '\n' :: rest) = (l ++ ['\r']) ++ '\n' :: withReturns rest := by
      have hsplit : withReturns (l ++ '\n' :: rest) =
          withReturns l ++ ['\r', '\n'] ++ withReturns rest := by
        simp [withReturns]
      rw [hsplit, withReturns_of_line hl]
      simp
    rw [e, trimmedLines_append_newline, trimmedLines_append_newline, ih,
      trimmedLines_congr (trim_append_of_blank (b := ['\r']) rfl l)]

/-! ## Constructs with the same trimmed lines -/

/-- Lines that only differ in their blank ends join to texts with the same trimmed lines. -/
theorem Construct.Alike.trimmedLines_eq {R : List Char → List Char → Prop}
    (h : Construct.Alike R N layout layout c d) (hR : ∀ l l', R l l' → trim l = trim l') :
    trimmedLines c.text = trimmedLines d.text := by
  obtain ⟨ls, ms, hls, hc, hd⟩ := h.text
  have hjoin : ∀ ts, trimmedLines (joinWith layout.separator ts) = ts.flatMap trimmedLines := by
    cases layout <;> exact trimmedLines_joinWith rfl
  rw [hc, hd, hjoin, hjoin]
  clear hc hd
  induction hls with
  | nil => rfl
  | cons hl _ ih => rw [List.flatMap_cons, List.flatMap_cons, trimmedLines_congr (hR _ _ hl), ih]

/-- Texts with the same trimmed code are cut into constructs with the same trimmed lines. -/
theorem paired_scan (layout : Layout) (h : trimmedCode a = trimmedCode b) :
    Paired (fun _ _ => True)
      (List.Forall₂ fun c d => c.kind = d.kind ∧ trimmedLines c.text = trimmedLines d.text)
      (scan layout a) (scan layout b) := by
  have hlines : List.Forall₂ (fun l m => trim l.1 = trim m.1 ∧ True) (codeLines layout a)
      (codeLines layout b) := by
    rw [← map_trim_codeLines layout, ← map_trim_codeLines layout] at h
    rw [← List.forall₂_eq_eq_eq, List.forall₂_map_left_iff, List.forall₂_map_right_iff] at h
    exact h.imp fun _ _ e => ⟨e, trivial⟩
  have hR : ReadsAlike layout layout fun l m => trim l = trim m := readsAlike_of_trim layout fun _ _ e => e
  exact (scan_alike (N := fun _ _ => True) hR hlines).mono (fun _ _ e => e) fun _ _ hall =>
      hall.imp fun _ _ hc => ⟨hc.kind, hc.trimmedLines_eq fun _ _ e => e⟩

theorem mentions_trimmedLines (target : ClassSet) (cs : List Char) :
    mentions target cs = (trimmedLines cs).any (mentions target) := by
  have line : ∀ l, mentions target l = ((filled [l]).map trim).any (mentions target) := by
    intro l
    cases h : isBlankText l with
    | true => simp [filled, h, mentions_of_blank h]
    | false => simp [filled, h]
  induction cs using lines_induction with
  | single l hl => rw [trimmedLines_of_line hl, line]
  | cons l rest hl ih =>
    rw [mentions_append_cons (by decide) (by decide), trimmedLines_append_newline, List.any_append,
      ← ih, trimmedLines_of_line hl, ← line]

/-- Whether a rule is included is decided by its trimmed lines. -/
theorem isIncluded_of_trimmedLines (target : ClassSet) (h : trimmedLines text = trimmedLines text') :
    isIncluded text target = isIncluded text' target := by
  have hopen := mem_congr h (x := '{') (by decide)
  have hcontains : text.contains '{' = text'.contains '{' := by
    rw [Bool.eq_iff_iff, List.contains_iff_mem, List.contains_iff_mem, hopen]
  rw [isIncluded_eq, isIncluded_eq, occurs_congr rfl h, occurs_congr rfl h, hcontains]
  by_cases ho : '{' ∈ text
  · obtain ⟨p, q, rfl, hp⟩ := List.eq_append_cons_of_mem ho
    obtain ⟨p', q', rfl, hp'⟩ := List.eq_append_cons_of_mem (hopen.1 ho)
    rw [takeWhile_append_cons hp, takeWhile_append_cons hp', mentions_trimmedLines,
      (trimmedLines_cut_first (by decide) hp hp' h).1, ← mentions_trimmedLines]
  · have hf : text'.contains '{' = false := by
      rw [← hcontains]
      simpa using ho
    rw [hf, Bool.false_and, Bool.false_and]

theorem includedRules_cons (target : ClassSet) (c : Construct) (cs : List Construct) :
    includedRules target (c :: cs) =
      if c.kind = .rule && isIncluded c.text target then c.text :: includedRules target cs
      else includedRules target cs := by
  unfold includedRules
  rw [List.filter_cons]
  split <;> rfl

theorem includedRules_of_trimmedLines (target : ClassSet)
    (h : List.Forall₂ (fun c d => c.kind = d.kind ∧ trimmedLines c.text = trimmedLines d.text) cs ds) :
    (includedRules target cs).map trimmedLines = (includedRules target ds).map trimmedLines := by
  induction h with
  | nil => rfl
  | cons hc _ ih =>
    rw [includedRules_cons, includedRules_cons, hc.1, isIncluded_of_trimmedLines target hc.2]
    split
    · rw [List.map_cons, List.map_cons, hc.2, ih]
    · exact ih

/-! ## Blocks with the same trimmed lines -/

/-- Texts with the same trimmed lines are cut alike. -/
theorem exists_ofText?_of_trimmedLines (h : trimmedLines text = trimmedLines text')
    (hb : MediaBlock.ofText? text = some block) :
    ∃ block', MediaBlock.ofText? text' = some block' ∧
      trimmedLines (block.header ++ [' ', '{']) = trimmedLines (block'.header ++ [' ', '{']) ∧
      trimmedLines block.body = trimmedLines block'.body := by
  obtain ⟨p, q, r, hp, hr, rfl, rfl⟩ := exists_of_ofText? hb
  -- the header ends at the first opening brace, the body at the last closing one behind it
  obtain ⟨p', inner, rfl, hp'⟩ := List.eq_append_cons_of_mem
    ((mem_congr h (x := '{') (by decide)).1 (by simp))
  obtain ⟨hheader, hinner⟩ := trimmedLines_cut_first (by decide) hp hp' h
  obtain ⟨q', r', hr', rfl⟩ := eq_append_cons_last
    ((mem_congr hinner (x := '}') (by decide)).1 (by simp))
  obtain ⟨hbody, -⟩ := trimmedLines_cut_last (by decide) hr hr' hinner
  refine ⟨_, ofText?_append hp' hr' q', ?_, ?_⟩
  · rw [trimmedLines_trim_append, trimmedLines_trim_append, tidy, hheader, ← tidy]
  · rw [trimmedLines_trim, trimmedLines_trim, hbody]

theorem ofText?_eq_none_of_trimmedLines (h : trimmedLines text = trimmedLines text')
    (hb : MediaBlock.ofText? text = none) : MediaBlock.ofText? text' = none := by
  cases hb' : MediaBlock.ofText? text' with
  | none => rfl
  | some block =>
    obtain ⟨block', e, -⟩ := exists_ofText?_of_trimmedLines h.symm hb'
    rw [hb] at e
    cases e

theorem prefix_of_trimmedLines {us : List (List Char)} (h : trimmedLines css = u :: us) :
    u <+: trimStart css := by
  induction css using lines_induction with
  | single l hl =>
    rw [trimmedLines_of_line hl, map_trim_filled_cons] at h
    split at h
    · cases h
    · cases h
      exact trimEnd_isPrefix _
  | cons l rest hl ih =>
    rw [trimmedLines_append_newline, trimmedLines_of_line hl, map_trim_filled_cons] at h
    split at h
    · next hb =>
      have hn : isBlankText (l ++ ['\n']) = true := by simp [hb, show isBlank '\n' = true from by decide]
      rw [List.append_cons, trimStart_append_of_blank hn]
      exact ih h
    · next hb =>
      obtain ⟨rfl, -⟩ := List.cons.inj h
      rw [trimStart_append (by simpa using hb)]
      exact (trimEnd_isPrefix _).trans (List.prefix_append _ _)

/-- Whether the first trimmed line starts an at-rule with a block. -/
def StartsBlock (text : List Char) : Prop := ∃ u us, trimmedLines text = u :: us ∧ isBlockAtRule u = true

theorem startsBlock_of_scan (h : scan .sheet css = .ok cs) (hc : c ∈ cs) (hat : c.kind = .atRule) :
    StartsBlock c.text := by
  obtain ⟨before, ls, after, hcode, -, hcomplete, htext⟩ := exists_lines h hc
  -- a block is entered at its first line, so that line starts with the name
  obtain ⟨l, hl, hstarts⟩ := hcomplete.kind_iff.1 hat
  obtain ⟨ls, rfl⟩ := List.head?_eq_some_iff.1 hl
  have hmem : l ∈ texts (codeLines .sheet css) := by simp [hcode]
  obtain ⟨m, -, hb, hn, e⟩ := mem_codeLines hmem
  obtain rfl : l = m := e
  refine ⟨trim l, ls.flatMap trimmedLines, ?_, ?_⟩
  · rw [htext, Layout.separator, trimmedLines_joinWith rfl, List.flatMap_cons,
      trimmedLines_of_filled hn hb, List.singleton_append]
  · rw [trim, isBlockAtRule_trimEnd]
    exact (Bool.and_eq_true_iff.1 hstarts).2

theorem isKeyframesHeader_of_trimmedLines (hs : StartsBlock text)
    (h : trimmedLines text = trimmedLines text') :
    isKeyframesHeader (trimStart text) = isKeyframesHeader (trimStart text') := by
  obtain ⟨u, us, e, hu⟩ := hs
  rw [isKeyframesHeader_congr (prefix_of_trimmedLines e) hu,
    isKeyframesHeader_congr (prefix_of_trimmedLines (h.symm.trans e)) hu]

theorem rebuild_of_trimmedLines {header header' : List Char} {rules rules' : List (List Char)}
    (hh : trimmedLines (header ++ [' ', '{']) = trimmedLines (header' ++ [' ', '{']))
    (hr : rules.map trimmedLines = rules'.map trimmedLines) :
    (rebuild header rules).toList.map trimmedLines =
      (rebuild header' rules').toList.map trimmedLines := by
  have hnil : rules = [] ↔ rules' = [] := by
    rw [← List.map_eq_nil_iff, hr, List.map_eq_nil_iff]
  have hflat : rules.flatMap trimmedLines = rules'.flatMap trimmedLines := by
    rw [List.flatMap_def, hr, ← List.flatMap_def]
  unfold rebuild
  simp only [hnil]
  split
  · rfl
  · simp only [Option.toList_some, List.map_singleton, trimmedLines_renderBlock, hh, hflat]

/-- What is left of a construct is decided by its trimmed lines, and so are these lines. -/
theorem prune_of_trimmedLines (target : ClassSet) (hkind : c.kind = d.kind)
    (hs : c.kind = .atRule → StartsBlock c.text) (h : trimmedLines c.text = trimmedLines d.text) :
    Paired (fun _ _ => True) (fun r r' => r.toList.map trimmedLines = r'.toList.map trimmedLines)
      (prune target c) (prune target d) := by
  cases hc : c.kind with
  | rule =>
    rw [prune_rule hc, prune_rule (hkind ▸ hc), isIncluded_of_trimmedLines target h]
    refine .ok ?_
    split
    · simp [h]
    · rfl
  | atRule =>
    rw [prune_atRule hc, prune_atRule (hkind ▸ hc)]
    refine Paired.mapError (E := fun _ _ => True) ?_ fun _ _ _ => trivial
    have hkey := isKeyframesHeader_of_trimmedLines (hs hc) h
    cases hk : isKeyframesHeader (trimStart c.text) with
    | true =>
      rw [pruneBlock_keyframes hk, pruneBlock_keyframes (hkey ▸ hk)]
      exact .ok (congrArg (fun x => [x]) h)
    | false =>
      cases hb : MediaBlock.ofText? c.text with
      | none =>
        rw [pruneBlock_none hk hb,
          pruneBlock_none (hkey ▸ hk) (ofText?_eq_none_of_trimmedLines h hb)]
        exact .ok rfl
      | some block =>
        obtain ⟨block', hb', hheader, hbody⟩ := exists_ofText?_of_trimmedLines h hb
        rw [pruneBlock_eq hk hb, pruneBlock_eq (hkey ▸ hk) hb']
        exact (paired_scan .body (trimmedCode_congr hbody)).map fun _ _ hall =>
          rebuild_of_trimmedLines hheader (includedRules_of_trimmedLines target hall)

/-! ## The whole -/

/-- Constructs of one kind with the same trimmed lines, of which the same trimmed lines are left. -/
structure SameLines (target : ClassSet) (c d : Construct) : Prop where
  kind : c.kind = d.kind
  text : trimmedLines c.text = trimmedLines d.text
  survives : Survives target c ↔ Survives target d
  left : ∀ t t', prune target c = .ok (some t) → prune target d = .ok (some t') →
    trimmedLines t = trimmedLines t'

/-- Filtering does the same to two texts, apart from indentation, blank lines and line endings. -/
structure FiltersAlike (target : ClassSet) (a b : List Char) : Prop where
  fails : (∃ e, filter a target { maxBytes := none } = .error e) ↔
    ∃ e, filter b target { maxBytes := none } = .error e
  output : ∀ o o', filter a target { maxBytes := none } = .ok o →
    filter b target { maxBytes := none } = .ok o' → trimmedLines o = trimmedLines o'
  constructs : ∀ cs ds, scan .sheet a = .ok cs → scan .sheet b = .ok ds →
    List.Forall₂ (SameLines target) cs ds

/-- Results of pruning that leave the same trimmed lines, if they leave anything. -/
def SameLeft : Except FilterError (Option (List Char)) → Except FilterError (Option (List Char)) → Prop :=
  Paired (fun _ _ => True) fun r r' => r.toList.map trimmedLines = r'.toList.map trimmedLines

theorem SameLeft.exists_some {x y : Except FilterError (Option (List Char))} (h : SameLeft x y)
    {t : List Char} (hx : x = .ok (some t)) :
    ∃ t', y = .ok (some t') ∧ trimmedLines t = trimmedLines t' := by
  obtain ⟨r, rfl, e⟩ := h.of_ok hx
  cases r with
  | none => cases e
  | some t' => exact ⟨t', rfl, by simpa using e⟩

theorem SameLines.of_prune (hkind : c.kind = d.kind)
    (htext : trimmedLines c.text = trimmedLines d.text)
    (h : SameLeft (prune target c) (prune target d)) : SameLines target c d where
  kind := hkind
  text := htext
  survives := by
    have hswap : SameLeft (prune target d) (prune target c) :=
      (Paired.swap h).mono (fun _ _ e => e) fun _ _ e => e.symm
    constructor
    · rintro ⟨t, ht⟩
      obtain ⟨t', ht', -⟩ := h.exists_some ht
      exact ⟨t', ht'⟩
    · rintro ⟨t, ht⟩
      obtain ⟨t', ht', -⟩ := hswap.exists_some ht
      exact ⟨t', ht'⟩
  left := by
    intro t t' ht ht'
    obtain ⟨t'', e, hlines⟩ := h.exists_some ht
    cases ht'.symm.trans e
    exact hlines

/-- Pruning leaves the same of constructs that a scan finds and of others with their trimmed lines. -/
theorem prunes_of_trimmedLines (target : ClassSet) (hs : scan .sheet a = .ok cs)
    (h : List.Forall₂ (fun c d => c.kind = d.kind ∧ trimmedLines c.text = trimmedLines d.text) cs ds) :
    List.Forall₂ (fun c d => c.kind = d.kind ∧ trimmedLines c.text = trimmedLines d.text ∧
      SameLeft (prune target c) (prune target d)) cs ds := by
  have hstart : ∀ c ∈ cs, c.kind = .atRule → StartsBlock c.text := fun c hc =>
    startsBlock_of_scan hs hc
  exact (List.forall₂_and_left _ _ |>.2 ⟨hstart, h⟩).imp fun c d ⟨hc, hkind, htext⟩ =>
    ⟨hkind, htext, prune_of_trimmedLines target hkind hc htext⟩

theorem filter_of_trimmedCode (target : ClassSet) (h : trimmedCode a = trimmedCode b) :
    Paired (fun _ _ => True) (fun o o' => trimmedLines o = trimmedLines o')
      (filter a target { maxBytes := none }) (filter b target { maxBytes := none }) := by
  rw [filter_eq, filter_eq]
  have hscan := (paired_scan .sheet h).tagged.mapError (D := fun _ _ => True)
    (f := fun e => FilterError.unbalancedBrace e.line)
    (g := fun e => FilterError.unbalancedBrace e.line) fun _ _ _ => trivial
  refine hscan.bind fun cs ds ⟨hs, hall⟩ => ?_
  have hprune := (prunes_of_trimmedLines target hs hall).imp fun _ _ hc => hc.2.2
  have hall := paired_pruneAll (Q := fun us us' => us.map trimmedLines = us'.map trimmedLines) rfl
    (fun us us' vs vs' hu hv => by rw [List.map_append, List.map_append, hu, hv]) hprune
  refine hall.map fun us us' hu => ?_
  rw [trimmedLines_renderSheet, trimmedLines_renderSheet, List.flatMap_def, hu, ← List.flatMap_def]

theorem filtersAlike_of_trimmedCode (target : ClassSet) (h : trimmedCode a = trimmedCode b) :
    FiltersAlike target a b := by
  have hfilter := filter_of_trimmedCode target h
  refine ⟨hfilter.exists_error_iff, fun o o' ho ho' => ?_, fun cs ds hs hs' => ?_⟩
  · obtain ⟨x, hx, e⟩ := hfilter.of_ok ho
    cases ho'.symm.trans hx
    exact e
  · obtain ⟨x, hx, hall⟩ := (paired_scan .sheet h).of_ok hs
    cases hs'.symm.trans hx
    exact (prunes_of_trimmedLines target hs hall).imp fun c d ⟨hkind, htext, hleft⟩ =>
      .of_prune hkind htext hleft

/-- Texts with the same trimmed lines of code are filtered alike: both fail or none does, the outputs
have the same trimmed lines, and construct by construct the same is kept. So are texts with the same
trimmed lines, which a new indentation or more blank lines do not change, and a text with other line
endings. -/
theorem filter_reformat (target : ClassSet) (a b : List Char) :
    (trimmedCode a = trimmedCode b → FiltersAlike target a b) ∧
      (trimmedLines a = trimmedLines b → FiltersAlike target a b) ∧
      FiltersAlike target (withReturns a) a :=
  ⟨filtersAlike_of_trimmedCode target, fun h => filtersAlike_of_trimmedCode target (trimmedCode_congr h),
    filtersAlike_of_trimmedCode target (trimmedCode_congr (trimmedLines_withReturns a))⟩

/-- A sheet on three indented lines with a comment, and the same on two. -/
theorem filter_reformat_indented :
    trimmedCode "  .a /* x\n\n\ty */ \x7b z\n  \x7d".toList = trimmedCode ".a\n\x7b z\r\n\x7d\n".toList ∧
      filter "  .a /* x\n\n\ty */ \x7b z\n  \x7d".toList (ClassSet.ofList ["a"]) { maxBytes := none } =
        .ok ".a\n \x7b z\n  \x7d".toList ∧
      filter ".a\n\x7b z\r\n\x7d\n".toList (ClassSet.ofList ["a"]) { maxBytes := none } =
        .ok ".a\n\x7b z\n\x7d".toList ∧
      trimmedLines ".a\n \x7b z\n  \x7d".toList = trimmedLines ".a\n\x7b z\n\x7d".toList := by
  have h : trimmedCode "  .a /* x\n\n\ty */ \x7b z\n  \x7d".toList =
      trimmedCode ".a\n\x7b z\r\n\x7d\n".toList := by decide +kernel
  have ha : filter "  .a /* x\n\n\ty */ \x7b z\n  \x7d".toList (ClassSet.ofList ["a"]) { maxBytes := none } =
      .ok ".a\n \x7b z\n  \x7d".toList := by decide +kernel
  have hb : filter ".a\n\x7b z\r\n\x7d\n".toList (ClassSet.ofList ["a"]) { maxBytes := none } =
      .ok ".a\n\x7b z\n\x7d".toList := by decide +kernel
  exact ⟨h, ha, hb, ((filter_reformat _ _ _).1 h).output _ _ ha hb⟩

end UsedCss.Css
