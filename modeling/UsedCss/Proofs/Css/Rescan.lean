import UsedCss.Proofs.Css.Block
/-!
# Scanning what was kept

Filtering reads its own output back as what it wrote: when every text that it kept has the lines of
one construct and is pruned to itself (`Kept`), a scan of the output finds just these texts, up to
their blank lines, and a second filtering changes nothing (`rescan_kept`).
-/

namespace UsedCss.Css

open UsedCss.Text

variable {target : ClassSet} {kind : Construct.Kind} {u v t : List Char} {n : Nat}

/-! ## Accepted constructs -/

/-- What is left of constructs, each with its kind. -/
inductive Accepted (target : ClassSet) : List Construct → List (Construct.Kind × List Char) → Prop
  | nil : Accepted target [] []
  | drop {c cs ts} : prune target c = .ok none → Accepted target cs ts →
    Accepted target (c :: cs) ts
  | keep {c cs t ts} : prune target c = .ok (some t) → Accepted target cs ts →
      Accepted target (c :: cs) ((c.kind, t) :: ts)

/-- What is left is left of one of the constructs. -/
theorem Accepted.exists_construct {cs : List Construct} {ts : List (Construct.Kind × List Char)}
    (h : Accepted target cs ts) {x : Construct.Kind × List Char} (hx : x ∈ ts) :
    ∃ c ∈ cs, c.kind = x.1 ∧ prune target c = .ok (some x.2) := by
  induction h with
  | nil => cases hx
  | drop _ _ ih =>
    obtain ⟨c, hc, h⟩ := ih hx
    exact ⟨c, List.mem_cons_of_mem _ hc, h⟩
  | keep hp _ ih =>
    rcases List.mem_cons.1 hx with rfl | hx
    · exact ⟨_, List.mem_cons_self, rfl, hp⟩
    · obtain ⟨c, hc, h⟩ := ih hx
      exact ⟨c, List.mem_cons_of_mem _ hc, h⟩

theorem pruneAll_cons (c : Construct) (cs : List Construct) :
    pruneAll target (c :: cs) =
      (prune target c).bind fun r => (pruneAll target cs).map fun ts => r.toList ++ ts := by
  simp only [pruneAll, List.mapM_cons, bind, pure, Except.bind, Except.pure]
  cases prune target c with
  | error e => rfl
  | ok r =>
    simp only []
    generalize List.mapM (prune target) cs = rest
    cases rest <;> cases r <;> rfl

theorem pruneAll_cons_eq_ok_iff {c : Construct} {cs : List Construct} {ws : List (List Char)} :
    pruneAll target (c :: cs) = .ok ws ↔
      ∃ r us, prune target c = .ok r ∧ pruneAll target cs = .ok us ∧ ws = r.toList ++ us := by
  rw [pruneAll_cons]
  cases prune target c with
  | error e => simp [Except.bind]
  | ok r => cases pruneAll target cs <;> simp [Except.bind, Except.map, eq_comm]

/-- Constructs leave what each part of them leaves. -/
theorem pruneAll_append_eq_ok_iff {cs ds : List Construct} {ws : List (List Char)} :
    pruneAll target (cs ++ ds) = .ok ws ↔
      ∃ us vs, pruneAll target cs = .ok us ∧ pruneAll target ds = .ok vs ∧ ws = us ++ vs := by
  induction cs generalizing ws with
  | nil =>
    constructor
    · exact fun h => ⟨[], ws, rfl, h, rfl⟩
    · rintro ⟨us, vs, ⟨⟩, hv, rfl⟩
      exact hv
  | cons c cs ih =>
    rw [List.cons_append, pruneAll_cons_eq_ok_iff]
    simp only [ih, pruneAll_cons_eq_ok_iff]
    constructor
    · rintro ⟨r, _, hr, ⟨us, vs, hu, hv, rfl⟩, rfl⟩
      exact ⟨_, vs, ⟨r, us, hr, hu, rfl⟩, hv, (List.append_assoc ..).symm⟩
    · rintro ⟨_, vs, ⟨r, us, hr, hu, rfl⟩, hv, rfl⟩
      exact ⟨r, _, hr, ⟨us, vs, hu, hv, rfl⟩, List.append_assoc ..⟩

theorem pruneAll_eq_ok_iff {cs : List Construct} {us : List (List Char)} :
    pruneAll target cs = .ok us ↔ ∃ ts, Accepted target cs ts ∧ us = ts.map Prod.snd := by
  constructor
  · intro h
    induction cs generalizing us with
    | nil =>
      cases h
      exact ⟨[], .nil, rfl⟩
    | cons c cs ih =>
      obtain ⟨r, vs, hc, hcs, rfl⟩ := pruneAll_cons_eq_ok_iff.1 h
      obtain ⟨ts, hts, rfl⟩ := ih hcs
      cases r with
      | none => exact ⟨ts, .drop hc hts, rfl⟩
      | some t => exact ⟨_, .keep hc hts, rfl⟩
  · rintro ⟨ts, h, rfl⟩
    induction h with
    | nil => rfl
    | drop hc _ ih => exact pruneAll_cons_eq_ok_iff.2 ⟨_, _, hc, ih, rfl⟩
    | keep hc _ ih => exact pruneAll_cons_eq_ok_iff.2 ⟨_, _, hc, ih, rfl⟩

/-- Without a size limit, filtering is a scan, pruning and printing. -/
theorem filter_eq (css : List Char) (target : ClassSet) :
    filter css target { maxBytes := none } =
      ((scan .sheet css).mapError fun e => FilterError.unbalancedBrace e.line).bind fun cs =>
        (pruneAll target cs).map renderSheet := by
  simp only [filter, SizeLimit.brokenBy, Option.filter_none, bind, Except.bind]
  cases scan .sheet css with
  | error e => rfl
  | ok cs =>
    simp only [Except.mapError]
    cases pruneAll target cs <;> rfl

theorem filter_eq_ok_iff_pruneAll {css o : List Char} :
    filter css target { maxBytes := none } = .ok o ↔
      ∃ cs us, scan .sheet css = .ok cs ∧ pruneAll target cs = .ok us ∧ o = renderSheet us := by
  rw [filter_eq]
  cases scan .sheet css with
  | error e => simp [Except.mapError, Except.bind]
  | ok cs =>
    cases hp : pruneAll target cs <;> simp [Except.mapError, Except.bind, Except.map, hp, eq_comm]

theorem filter_eq_ok_iff {css o : List Char} :
    filter css target { maxBytes := none } = .ok o ↔
      ∃ cs ts, scan .sheet css = .ok cs ∧ Accepted target cs ts ∧
        o = renderSheet (ts.map Prod.snd) := by
  rw [filter_eq_ok_iff_pruneAll]
  constructor
  · rintro ⟨cs, us, hs, hp, rfl⟩
    obtain ⟨ts, hts, rfl⟩ := pruneAll_eq_ok_iff.1 hp
    exact ⟨cs, ts, hs, hts, rfl⟩
  · rintro ⟨cs, ts, hs, hts, rfl⟩
    exact ⟨cs, _, hs, pruneAll_eq_ok_iff.2 ⟨ts, hts, rfl⟩, rfl⟩

/-- The options only check the size of what is filtered and the grammar of what is left. -/
theorem filter_options (options : FilterOptions) (css : List Char) (target : ClassSet) :
    filter css target options =
      match options.maxBytes.brokenBy (byteSize css) with
      | some limit => .error (.inputTooLarge (byteSize css) limit)
      | none => (filter css target { maxBytes := none }).bind fun o =>
        if options.verify then (verify o).mapError FilterError.invalidOutput *> .ok o else .ok o := by
  rw [filter_eq, filter]
  cases options.maxBytes.brokenBy (byteSize css) with
  | some limit => rfl
  | none =>
    cases scan .sheet css with
    | error e => rfl
    | ok cs =>
      simp only [Except.mapError, bind, Except.bind]
      cases pruneAll target cs <;> rfl

theorem filter_of_options {options : FilterOptions} {css o : List Char}
    (h : filter css target options = .ok o) : filter css target { maxBytes := none } = .ok o := by
  rw [filter_options] at h
  cases hsize : options.maxBytes.brokenBy (byteSize css) with
  | some limit =>
    rw [hsize] at h
    cases h
  | none =>
    rw [hsize] at h
    cases hfilter : filter css target { maxBytes := none } with
    | error e =>
      rw [hfilter] at h
      cases h
    | ok t =>
      rw [hfilter] at h
      dsimp only [Except.bind] at h
      split at h
      · cases hverify : verify t with
        | error e =>
          rw [hverify] at h
          cases h
        | ok summary =>
          rw [hverify] at h
          exact h
      · exact h

/-! ## Pruning trimmed texts -/

/-- The header of a block that starts with an at-rule's name and is no keyframes block. -/
theorem media_of_ofText? {block : MediaBlock} (hat : isBlockAtRule (trimStart u) = true)
    (hk : isKeyframesHeader (trimStart u) = false) (hb : MediaBlock.ofText? u = some block) :
    "@media".toList <+: block.header := by
  obtain ⟨a, b, r, -, -, rfl, rfl⟩ := exists_of_ofText? hb
  rw [isBlockAtRule_iff, hk, trimStart_append_cons (by decide)] at hat
  have hm : "@media".toList <+: trimStart a :=
    isPrefix_of_append_cons (by decide) (hat.resolve_right (by simp))
  obtain ⟨w, hw, e⟩ := exists_trimEnd (trimStart a)
  rw [e] at hm
  exact isPrefix_of_append (q := "@medi".toList) (not_mem_of_blank (by decide) hw) hm

theorem trimStart_renderBlock {header : List Char} (h : "@media".toList <+: header)
    (ts : List (List Char)) :
    trimStart (renderBlock header ts) = renderBlock header ts := by
  rw [renderBlock_eq]
  refine (isKeyframesHeader_of_media ?_).1
  exact h.trans ((List.prefix_append header [' ', '{']).trans (List.prefix_append _ _))

theorem trimEnd_renderBlock (header : List Char) (ts : List (List Char)) :
    trimEnd (renderBlock header ts) = renderBlock header ts := by
  have e : renderBlock header ts =
      (header ++ [' ', '{'] ++ '\n' :: ((indent ++ joinWith (['\n', '\n'] ++ indent) ts) ++ ['\n'])) ++ ['}'] := by
    rw [renderBlock_eq]
    simp
  rw [e, trimEnd_of_not_blank (by decide)]

/-- What is left of a text without its blank start is what is left of the text, likewise trimmed. -/
theorem prune_trimStart (hat : kind = .atRule → isBlockAtRule (trimStart u) = true)
    (h : prune target ⟨kind, u, n⟩ = .ok (some v)) :
    prune target ⟨kind, trimStart u, n⟩ = .ok (some (trimStart v)) := by
  rw [prune_eq_ok_iff] at h ⊢
  rcases h with ⟨rfl, h⟩ | ⟨rfl, h⟩
  · split at h
    · next hi =>
      cases h
      exact .inl ⟨rfl, by simp [isIncluded_trimStart, show isIncluded u target = true from hi]⟩
    · cases h
  · refine .inr ⟨rfl, ?_⟩
    rcases pruneBlock_eq_some h with ⟨hk, rfl⟩ | ⟨hk, block, cs, hb, hs, hr, rfl⟩
    · exact pruneBlock_keyframes (by rwa [trimStart_trimStart])
    · rw [trimStart_renderBlock (media_of_ofText? (hat rfl) hk hb),
        pruneBlock_eq (by rwa [trimStart_trimStart]) (ofText?_trimStart hb), hs, Except.map, if_neg hr]

theorem prune_trimEnd (h : prune target ⟨kind, u, n⟩ = .ok (some v)) :
    prune target ⟨kind, trimEnd u, n⟩ = .ok (some (trimEnd v)) := by
  rw [prune_eq_ok_iff] at h ⊢
  have hk : isKeyframesHeader (trimStart (trimEnd u)) = isKeyframesHeader (trimStart u) := by
    rw [trimStart_trimEnd, trim, isKeyframesHeader_trimEnd]
  rcases h with ⟨rfl, h⟩ | ⟨rfl, h⟩
  · split at h
    · next hi =>
      cases h
      exact .inl ⟨rfl, by simp [isIncluded_trimEnd, show isIncluded u target = true from hi]⟩
    · cases h
  · refine .inr ⟨rfl, ?_⟩
    rcases pruneBlock_eq_some h with ⟨hkf, rfl⟩ | ⟨hkf, block, cs, hb, hs, hr, rfl⟩
    · exact pruneBlock_keyframes (hk.trans hkf)
    · rw [trimEnd_renderBlock, pruneBlock_eq (hk.trans hkf) (ofText?_trimEnd hb), hs, Except.map,
        if_neg hr]

/-! ## Texts that are kept -/

/-- A text without its blank lines. -/
def squeeze (cs : List Char) : List Char := joinWith ['\n'] (filledLines cs)

theorem squeeze_trimStart (cs : List Char) : squeeze (trimStart cs) = trimStart (squeeze cs) := by
  rw [squeeze, filledLines_trimStart,
    joinWith_modifyHead_trimStart fun l hl => (mem_filledLines hl).1, squeeze]

theorem squeeze_trimEnd (cs : List Char) : squeeze (trimEnd cs) = trimEnd (squeeze cs) := by
  rw [squeeze, filledLines_trimEnd, joinWith_modifyLast_trimEnd fun l hl => (mem_filledLines hl).1,
    squeeze]

/-- A text whose lines make a construct, of which the whole text is left. -/
structure Kept (target : ClassSet) (kind : Construct.Kind) (t : List Char) : Prop where
  complete : Complete .sheet kind (filledLines t)
  prunes : ∀ n, prune target ⟨kind, squeeze t, n⟩ = .ok (some t)

theorem Complete.isBlockAtRule {ls : List (List Char)} (h : Complete .sheet .atRule ls) :
    isBlockAtRule (trimStart (joinWith ['\n'] ls)) = true := by
  obtain ⟨l, hl, hat⟩ := h.kind_iff.1 rfl
  cases ls with
  | nil => cases hl
  | cons x ls =>
    cases hl
    have hat : UsedCss.Css.isBlockAtRule (trimStart l) = true := by simpa [startsAtRule] using hat
    have hb : isBlankText l = false := by
      by_contra hb
      rw [trimStart_eq_nil.2 (by simpa using hb)] at hat
      cases hat
    rw [joinWith_cons, trimStart_append hb]
    exact isBlockAtRule_mono (List.prefix_append _ _) hat

theorem Kept.trimStart (h : Kept target kind t) : Kept target kind (trimStart t) where
  complete := by
    rw [filledLines_trimStart]
    exact h.complete.of_map_trim (map_modifyHead_eq trim_trimStart _)
  prunes n := by
    rw [squeeze_trimStart]
    exact prune_trimStart (fun hk => by subst hk; exact h.complete.isBlockAtRule) (h.prunes n)

theorem Kept.trimEnd (h : Kept target kind t) : Kept target kind (trimEnd t) where
  complete := by
    rw [filledLines_trimEnd]
    exact h.complete.of_map_trim (map_modifyLast_eq trim_trimEnd _)
  prunes n := by
    rw [squeeze_trimEnd]
    exact prune_trimEnd (h.prunes n)

/-! ## What pruning keeps -/

variable {ls : List (List Char)} {block : MediaBlock} {rules : List (List (List Char))}

/-- A media block with the lines `ls` that keeps the rules `rules`. -/
structure Rebuilt (target : ClassSet) (ls : List (List Char)) (block : MediaBlock)
    (rules : List (List (List Char))) :
    Prop where
  cut : MediaBlock.ofText? (joinWith ['\n'] ls) = some block
  media : "@media".toList <+: block.header
  nonempty : rules ≠ []
  rule : ∀ r ∈ rules, Complete .body .rule r ∧
    isIncluded (joinWith Layout.body.separator r) target = true
  code : rules.flatten.Sublist (texts (codeLines .body block.body))

/-- The text that is left of such a block. -/
def rebuilt (block : MediaBlock) (rules : List (List (List Char))) : List Char :=
  renderBlock block.header (rules.map (joinWith Layout.body.separator))

/-- What is left of a construct is its text, or it is a rebuilt media block. -/
theorem prune_eq_some (h : Complete .sheet kind ls)
    (hp : prune target ⟨kind, joinWith ['\n'] ls, n⟩ = .ok (some t)) :
    t = joinWith ['\n'] ls ∧ (∀ n, prune target ⟨kind, t, n⟩ = .ok (some t)) ∨
      kind = .atRule ∧ ∃ block rules, Rebuilt target ls block rules ∧ t = rebuilt block rules := by
  rcases prune_eq_ok_iff.1 hp with ⟨rfl, he⟩ | ⟨rfl, hb⟩
  · split at he
    · cases he
      exact .inl ⟨rfl, prune_line hp⟩
    · cases he
  · rcases pruneBlock_eq_some hb with ⟨hk, rfl⟩ | ⟨hk, block, cs, hcut, hs, hr, rfl⟩
    · exact .inl ⟨rfl, prune_line hp⟩
    · obtain ⟨rules, e, hall, hcode⟩ := exists_includedRules target hs
      rw [e] at hr ⊢
      exact .inr ⟨rfl, block, rules, ⟨hcut, media_of_ofText? h.isBlockAtRule hk hcut,
        by simpa using hr, hall, hcode⟩, rfl⟩

/-- A construct of which the whole text is left. -/
theorem kept_of_lines (h : Complete .sheet kind ls)
    (hf : ∀ l ∈ ls, isBlankText l = false ∧ '\n' ∉ l)
    (hp : ∀ n, prune target ⟨kind, joinWith ['\n'] ls, n⟩ = .ok (some (joinWith ['\n'] ls))) :
    filledLines (joinWith ['\n'] ls) = ls ∧ Kept target kind (joinWith ['\n'] ls) := by
  have e : filledLines (joinWith ['\n'] ls) = ls := by
    rw [filledLines_joinWith, flatMap_filledLines fun l hl => (hf l hl).2,
      filled_eq_self fun l hl => (hf l hl).1]
  exact ⟨e, by rwa [e], fun n => by rw [squeeze, e]; exact hp n⟩

theorem depth_flatten_rules (h : ∀ r ∈ rules, Complete .body .rule r) :
    depth rules.flatten = 0 ∧ ∀ m, m <+: rules.flatten → 0 ≤ depth m := by
  induction rules with
  | nil => exact ⟨rfl, fun m hm => by rw [List.prefix_nil.1 hm]; exact Int.le_refl 0⟩
  | cons r rules ih =>
    rw [List.forall_mem_cons] at h
    obtain ⟨h0, hp⟩ := ih h.2
    rw [List.flatten_cons]
    refine ⟨by rw [depth_append, h.1.depth_eq, h0]; rfl, fun m hm => ?_⟩
    rcases List.prefix_or_prefix_of_prefix hm (List.prefix_append r rules.flatten) with hr | ⟨m, rfl⟩
    · exact h.1.depth_nonneg hr
    · rw [List.prefix_append_right_inj] at hm
      rw [depth_append, h.1.depth_eq, Int.zero_add]
      exact hp m hm

theorem depth_map_joinWith (rules : List (List (List Char))) :
    depth (rules.map (joinWith Layout.body.separator)) = depth rules.flatten := by
  induction rules with
  | nil => rfl
  | cons r rules ih =>
    rw [List.map_cons, depth_cons, ih, braceDelta_joinWith rfl, List.flatten_cons, depth_append]

namespace Rebuilt

/-- The lines of the rules are trimmed lines of the body. -/
theorem lines (h : Rebuilt target ls block rules) {r : List (List Char)} (hr : r ∈ rules)
    {l : List Char} (hl : l ∈ r) :
    isBlankText l = false ∧ '\n' ∉ l ∧ trim l = l :=
  mem_codeLines_body (h.code.subset (List.mem_flatten_of_mem hr hl))

/-- The lines of the rules as the block is printed. -/
theorem indented (h : Rebuilt target ls block rules) :
    ∀ l ∈ rules.flatten.map (indent ++ ·), isBlankText l = false ∧ '\n' ∉ l := by
  rw [List.forall_mem_map]
  intro l hl
  obtain ⟨r, hr, hl⟩ := List.mem_flatten.1 hl
  obtain ⟨hb, hn, -⟩ := h.lines hr hl
  exact ⟨by simp [hb], by simpa [indent] using hn⟩

theorem map_trim_indented (h : Rebuilt target ls block rules) :
    (rules.flatten.map (indent ++ ·)).map trim = rules.flatten := by
  apply map_trim_indent
  intro l hl
  obtain ⟨r, hr, hl⟩ := List.mem_flatten.1 hl
  exact (h.lines hr hl).2.2

/-- The header, if it does not close more than it opens. -/
theorem header (h : Rebuilt target ls block rules) (hc : Complete .sheet .atRule ls)
    (hf : ∀ l ∈ ls, isBlankText l = false ∧ '\n' ∉ l) (hd : 0 ≤ braceDelta block.header) :
    ∃ hs hl, block.header = joinWith ['\n'] (hs ++ [hl]) ∧ MediaHeader hs hl ∧
      ∀ l ∈ hs, ∃ m ∈ ls, l <:+ m := by
  have hne : block.header ≠ [] := by
    intro e
    have := h.media
    rw [e] at this
    exact absurd this (by decide)
  obtain ⟨gs, g, e, hsub, hg, m, hm, hgm⟩ :=
    exists_filledHeader hc (fun l hl => (hf l hl).1) h.cut hne
  have ho : '{' ∉ block.header := by
    obtain ⟨a, b, r, ha, -, -, rfl⟩ := exists_of_ofText? h.cut
    intro hx
    exact ha ((trim_isInfix a).mem hx)
  have hfg : ∀ l ∈ gs ++ [g], isBlankText l = false ∧ '\n' ∉ l := by
    refine List.forall_mem_append.2 ⟨fun l hl => hf l (hsub hl), fun l hl => ?_⟩
    rw [List.mem_singleton.1 hl]
    exact ⟨hg, fun hx => (hf m hm).2 (hgm.mem hx)⟩
  have hb := braceless_of_delta ho hd
  have hmedia := h.media
  rw [e] at hb hmedia
  obtain ⟨hs, hl, e', hh, hsuf⟩ := exists_mediaHeader hfg hb hmedia
  refine ⟨hs, hl, e.trans e', hh, fun l hl => ?_⟩
  obtain ⟨x, hx, hlx⟩ := hsuf l hl
  exact ⟨x, hsub hx, hlx⟩

/-- A rebuilt block is kept if no comment starts in it. -/
theorem kept (h : Rebuilt target ls block rules) {hs : List (List Char)} {hl : List Char}
    (e : block.header = joinWith ['\n'] (hs ++ [hl])) (hh : MediaHeader hs hl)
    (hcomment : ∀ r ∈ rules, ∀ l ∈ r, occurs commentOpen l = false) :
    filledLines (rebuilt block rules) = blockLines hs hl (rules.flatten.map (indent ++ ·)) ∧
      Kept target .atRule (rebuilt block rules) := by
  have hcomplete : ∀ r ∈ rules, Complete .body .rule r := fun r hr => (h.rule r hr).1
  have htrim := h.map_trim_indented
  have hno : ∀ l ∈ rules.flatten.map (indent ++ ·), occurs commentOpen l = false := by
    rw [List.forall_mem_map]
    intro l hl
    obtain ⟨r, hr, hl⟩ := List.mem_flatten.1 hl
    rw [occurs_of_blank_append rfl rfl]
    exact hcomment r hr l hl
  obtain ⟨h0, hp⟩ := depth_flatten_rules hcomplete
  have hlines : filledLines (rebuilt block rules) =
      blockLines hs hl (rules.flatten.map (indent ++ ·)) := by
    rw [rebuilt, e]
    exact filledLines_renderBlock hh h.nonempty fun r hr =>
      ⟨(h.rule r hr).1.ne_nil, fun l hl => ⟨(h.lines hr hl).1, (h.lines hr hl).2.1⟩⟩
  refine ⟨hlines, ?_, fun n => ?_⟩
  · rw [hlines]
    apply complete_blockLines hh (by rw [← depth_map_trim, htrim, h0])
    intro m hm
    rw [← depth_map_trim]
    exact hp _ (htrim ▸ hm.map trim)
  · have hall := includedIn_eq fun r hr => (h.rule r hr).2
    rw [prune_eq_ok_iff, squeeze, hlines]
    refine .inr ⟨rfl, ?_⟩
    rw [pruneBlock_blockLines hh hno h.indented hcomplete htrim, hall,
      if_neg (by simpa using h.nonempty), rebuilt, e]

/-- A rebuilt block nests as its header does. -/
theorem braceDelta_eq (h : Rebuilt target ls block rules) :
    braceDelta (rebuilt block rules) = braceDelta block.header := by
  rw [rebuilt, braceDelta_renderBlock, depth_map_joinWith,
    (depth_flatten_rules fun r hr => (h.rule r hr).1).1, Int.add_zero]

theorem line_isInfix_rebuilt {r : List (List Char)} (hr : r ∈ rules) {l : List Char} (hl : l ∈ r)
    (block : MediaBlock) :
    l <:+: rebuilt block rules := by
  have hrule : joinWith Layout.body.separator r <:+:
      joinWith (['\n', '\n'] ++ indent) (rules.map (joinWith Layout.body.separator)) :=
    infix_joinWith _ (List.mem_map_of_mem hr)
  apply ((infix_joinWith _ hl).trans hrule).trans
  rw [rebuilt, renderBlock_eq]
  exact ⟨block.header ++ [' ', '{'] ++ '\n' :: indent, '\n' :: ['}'], by simp⟩

end Rebuilt

/-! ## The printed sheet -/

/-- The trimming takes the blank line after the last text away again. -/
theorem renderSheet_eq (us : List (List Char)) :
    renderSheet us = trim (joinWith ['\n', '\n'] us) := by
  cases us with
  | nil => rfl
  | cons u us =>
    have e : ∀ u : List Char, ∀ us : List (List Char), (u :: us).flatMap (· ++ ['\n', '\n']) =
        (u ++ us.flatMap (['\n', '\n'] ++ ·)) ++ ['\n', '\n'] := fun u us => by
      induction us generalizing u with
      | nil => simp
      | cons w us ih => rw [List.flatMap_cons, ih, List.flatMap_cons]; simp
    rw [renderSheet, e, trim_append_of_blank (by decide), joinWith_cons]

theorem filledLines_renderSheet (us : List (List Char)) :
    filledLines (renderSheet us) = trimOuter (us.flatMap filledLines) := by
  rw [renderSheet_eq, filledLines_trim, filledLines_joinWith_blank]

/-- Printing neither hides a comment nor makes one. -/
theorem occurs_renderSheet (us : List (List Char)) :
    occurs commentOpen (renderSheet us) = us.any (occurs commentOpen) := by
  rw [renderSheet_eq, occurs_trim rfl, occurs_joinWith rfl (by simp) rfl]

/-- The printed sheet is trimmed anyway. -/
theorem renderSheet_trimOuter (us : List (List Char)) :
    renderSheet (trimOuter us) = renderSheet us := by
  have hhead : ∀ us : List (List Char), renderSheet (us.modifyHead trimStart) = renderSheet us := by
    intro us
    cases us with
    | nil => rfl
    | cons u us =>
      obtain ⟨w, hw, e⟩ := exists_trimStart u
      rw [renderSheet, renderSheet, List.modifyHead_cons, List.flatMap_cons, List.flatMap_cons]
      conv_rhs => rw [e, List.append_assoc, List.append_assoc, trim_of_blank_append hw,
        ← List.append_assoc]
  have hlast : ∀ us : List (List Char), renderSheet (us.modifyLast trimEnd) = renderSheet us := by
    intro us
    rcases List.eq_nil_or_concat us with rfl | ⟨us, u, rfl⟩
    · rfl
    · obtain ⟨w, hw, e⟩ := exists_trimEnd u
      have hn : isBlankText ['\n', '\n'] = true := by decide
      rw [List.concat_eq_append, List.modifyLast_concat, renderSheet, renderSheet,
        List.flatMap_append, List.flatMap_append, List.flatMap_singleton, List.flatMap_singleton,
        ← List.append_assoc, ← List.append_assoc, trim_append_of_blank hn, trim_append_of_blank hn]
      conv_rhs => rw [e, ← List.append_assoc, trim_append_of_blank hw]
  rw [trimOuter, hlast, hhead]

/-- Kept texts as the printed sheet has them: without its blank ends. -/
def trimKept (ts : List (Construct.Kind × List Char)) : List (Construct.Kind × List Char) :=
  (ts.modifyHead (Prod.map id trimStart)).modifyLast (Prod.map id trimEnd)

variable {ts : List (Construct.Kind × List Char)} {cs : List Construct}

theorem kept_trimKept (h : ∀ x ∈ ts, Kept target x.1 x.2) :
    ∀ x ∈ trimKept ts, Kept target x.1 x.2 :=
  forall_mem_modifyLast (fun _ hx => hx.trimEnd)
    (forall_mem_modifyHead (fun _ hx => hx.trimStart) h)

theorem map_snd_trimKept (ts : List (Construct.Kind × List Char)) :
    (trimKept ts).map Prod.snd = trimOuter (ts.map Prod.snd) := by
  have hend : ∀ x : Construct.Kind × List Char, (Prod.map id trimEnd x).2 = trimEnd x.2 :=
    fun _ => rfl
  have hstart : ∀ x : Construct.Kind × List Char, (Prod.map id trimStart x).2 = trimStart x.2 :=
    fun _ => rfl
  rw [trimKept, map_modifyLast hend, map_modifyHead hstart, trimOuter]

theorem map_fst_trimKept (ts : List (Construct.Kind × List Char)) :
    (trimKept ts).map Prod.fst = ts.map Prod.fst := by
  have hend : ∀ x : Construct.Kind × List Char, (Prod.map id trimEnd x).1 = x.1 := fun _ => rfl
  have hstart : ∀ x : Construct.Kind × List Char, (Prod.map id trimStart x).1 = x.1 := fun _ => rfl
  rw [trimKept, map_modifyLast_eq hend, map_modifyHead_eq hstart]

theorem flatMap_trimKept (h : ∀ x ∈ ts, Kept target x.1 x.2) :
    (trimKept ts).flatMap (fun x => filledLines x.2) =
      trimOuter (ts.flatMap fun x => filledLines x.2) := by
  have hne : ∀ x : Construct.Kind × List Char, Kept target x.1 x.2 → filledLines x.2 ≠ [] :=
    fun x hx => hx.complete.ne_nil
  rw [trimKept, flatMap_modifyLast (fun x => filledLines_trimEnd x.2)
      (fun x hx => hne x (forall_mem_modifyHead (fun _ hy => hy.trimStart) h x hx)),
    flatMap_modifyHead (fun x => filledLines_trimStart x.2) (fun x hx => hne x (h x hx)), trimOuter]

theorem accepted_of_kept (h : ∀ x ∈ ts, Kept target x.1 x.2)
    (e : cs.map Construct.view = ts.map fun x => (x.1, squeeze x.2)) : Accepted target cs ts := by
  induction ts generalizing cs with
  | nil =>
    obtain rfl : cs = [] := List.map_eq_nil_iff.1 e
    exact .nil
  | cons x ts ih =>
    obtain ⟨c, cs, rfl, hc, hcs⟩ := List.map_eq_cons_iff.1 e
    obtain ⟨kind, text, n⟩ := c
    cases hc
    rw [List.forall_mem_cons] at h
    exact .keep (h.1.prunes n) (ih h.2 hcs)

/-- A sheet printed from kept texts, if all its filled lines are code, is scanned back to these
texts without their blank lines and filtered to itself. -/
theorem rescan_kept (h : ∀ x ∈ ts, Kept target x.1 x.2) {o : List Char}
    (ho : o = renderSheet (ts.map Prod.snd)) (hcode : texts (codeLines .sheet o) = filledLines o) :
    ∃ cs, Progress.none.run .sheet (codeLines .sheet o) = .ok (cs, .none) ∧
      cs.map Construct.kind = ts.map Prod.fst ∧
        cs.map Construct.text = trimOuter (ts.map fun x => squeeze x.2) ∧
      filter o target { maxBytes := none } = .ok o := by
  have hk := kept_trimKept h
  have hall : ∀ x ∈ (trimKept ts).map fun x => (x.1, filledLines x.2), Complete .sheet x.1 x.2 :=
    List.forall_mem_map.2 fun x hx => (hk x hx).complete
  have hlines : texts (codeLines .sheet o) =
      ((trimKept ts).map fun x => (x.1, filledLines x.2)).flatMap Prod.snd := by
    rw [hcode, ho, filledLines_renderSheet, List.flatMap_map, List.flatMap_map, flatMap_trimKept h]
  obtain ⟨cs, hrun, hview⟩ := run_constructs hall hlines
  have hview : cs.map Construct.view = (trimKept ts).map fun x => (x.1, squeeze x.2) := by
    rw [hview, List.map_map]
    rfl
  have hkind := congrArg (List.map Prod.fst) hview
  have htext := congrArg (List.map Prod.snd) hview
  rw [List.map_map, List.map_map] at hkind htext
  refine ⟨cs, hrun, hkind.trans ?_, htext.trans ?_, ?_⟩
  · exact map_fst_trimKept ts
  · rw [trimKept, trimOuter, map_modifyLast (fun x => squeeze_trimEnd x.2),
      map_modifyHead (fun x => squeeze_trimStart x.2)]
    rfl
  · refine filter_eq_ok_iff.2 ⟨cs, trimKept ts, scan_eq_ok_iff.2 ⟨_, hrun⟩,
      accepted_of_kept hk hview, ?_⟩
    rw [map_snd_trimKept, renderSheet_trimOuter, ho]

end UsedCss.Css
