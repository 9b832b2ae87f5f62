import UsedCss.Proofs.Css.RoundTrip
/-!
# Sheets laid out by lines

A stylesheet whose rules, statements and blocks stand on lines of their own is filtered as it reads:
statements go, keyframes stay, a rule stays if one of its selector lines mentions a class of the target
set, and a media block stays around those of its rules that do.
-/

namespace UsedCss.Css

open UsedCss.Text

variable {target : ClassSet} {layout : Layout}

/-! ## Items -/

/-- A line of a sheet: not blank, without line breaks and without the start of a comment. -/
structure SheetLine (l : List Char) : Prop where
  filled : isBlankText l = false
  oneLine : '\n' ∉ l
  noReturn : '\r' ∉ l
  noComment : occurs commentOpen l = false

instance (l : List Char) : Decidable (SheetLine l) :=
  decidable_of_iff (isBlankText l = false ∧ '\n' ∉ l ∧ '\r' ∉ l ∧ occurs commentOpen l = false)
    ⟨fun ⟨hf, hn, hr, hc⟩ => ⟨hf, hn, hr, hc⟩, fun ⟨hf, hn, hr, hc⟩ => ⟨hf, hn, hr, hc⟩⟩

/-- A style rule: the lines of its selector list, `last` the last of them, and of its declarations. -/
structure StyleRule where
  selectors : List (List Char)
  last : List Char
  declarations : List (List Char)
  selectorLine : ∀ l ∈ selectors ++ [last], SheetLine l ∧ Braceless l ∧
    isBlockAtRule (trimStart l) = false
  declarationLine : ∀ l ∈ declarations, SheetLine l ∧ Braceless l
  noStatement : ∀ l ∈ selectors, endsStatement l = false
  noKeyframes : ∀ l ∈ selectors ++ [last] ++ declarations, occurs "@keyframes".toList l = false
  noFontFace : ∀ l ∈ selectors ++ [last] ++ declarations, occurs "@font-face".toList l = false

/-- The lines that a rule is printed on. -/
def StyleRule.lines (r : StyleRule) :
    List (List Char) := blockLines r.selectors r.last r.declarations

/-- Whether a selector line of a rule mentions a class of the target set. -/
def StyleRule.selects (target : ClassSet) (r : StyleRule) :
    Bool := (r.selectors ++ [r.last]).any (mentions target)

/-- An item of a sheet. -/
inductive Item
  | rule (r : StyleRule)
  | statement (l : List Char) (line : SheetLine l) (braceless : Braceless l)
      (noAtRule : isBlockAtRule (trimStart l) = false) (ends : endsStatement l = true)
  | media (header : List Char) (line : SheetLine header) (braceless : Braceless header)
      (trimmed : trim header = header) (media : "@media".toList <+: header) (rules : List StyleRule)
  | keyframes (header : List Char) (line : SheetLine header) (braceless : Braceless header)
      (keyframes : isKeyframesHeader header = true) (body : List (List Char))
      (bodyLine : ∀ l ∈ body, SheetLine l ∧ l.count '{' = l.count '}')

namespace Item

/-- The lines that an item is printed on. -/
def lines : Item → List (List Char)
  | rule r => r.lines
  | statement l .. => [l]
  | media header _ _ _ _ rules => blockLines [] header (rules.flatMap StyleRule.lines)
  | keyframes header _ _ _ body _ => blockLines [] header body

/-- What filtering keeps of an item: a rule and keyframes as they stand, and a media block with its
selected rules indented and a blank line between them. -/
def kept (target : ClassSet) : Item → Option (List Char)
  | rule r => if r.selects target then some (joinWith ['\n'] r.lines) else none
  | statement .. => none
  | media header _ _ _ _ rules =>
    let texts :=
      (rules.filter (·.selects target)).map fun r => joinWith "\n    ".toList (r.lines.map trim)
    if texts.isEmpty then none
    else some (header ++ " \x7b\n    ".toList ++ joinWith "\n\n    ".toList texts ++ "\n\x7d".toList)
  | keyframes header _ _ _ body _ => some (joinWith ['\n'] (blockLines [] header body))

end Item

/-- The text of a sheet, with or without a newline after its last line. -/
def sheetText (items : List Item) (newline : Bool) : List Char :=
  joinWith ['\n'] (items.flatMap Item.lines) ++ if newline then ['\n'] else []

/-! ## Lines -/

theorem SheetLine.plain {l : List Char} (h : SheetLine l) : Plain l :=
  ⟨h.noComment, fun hl => h.noReturn (List.mem_of_getLast? hl)⟩

theorem SheetLine.opening {l : List Char} (h : SheetLine l) : SheetLine (l ++ [' ', '{']) where
  filled := by simp [h.filled]
  oneLine := by simpa using h.oneLine
  noReturn := by simpa using h.noReturn
  noComment := by
    rw [occurs_append_cons (by decide), h.noComment]
    rfl

theorem sheetLine_close : SheetLine ['}'] := ⟨rfl, by decide, by decide, rfl⟩

theorem sheetLine_blockLines {hs body : List (List Char)} {hl : List Char}
    (hh : ∀ l ∈ hs ++ [hl], SheetLine l) (hb : ∀ l ∈ body, SheetLine l) :
    ∀ l ∈ blockLines hs hl body, SheetLine l := by
  intro l hl'
  simp only [blockLines, List.mem_append, List.mem_cons, List.not_mem_nil, or_false] at hl'
  rcases hl' with h | rfl | h | rfl
  · exact hh l (by simp [h])
  · exact (hh hl (by simp)).opening
  · exact hb l h
  · exact sheetLine_close

theorem StyleRule.sheetLine (r : StyleRule) : ∀ l ∈ r.lines, SheetLine l :=
  sheetLine_blockLines (fun l hl => (r.selectorLine l hl).1) fun l hl => (r.declarationLine l hl).1

theorem Item.sheetLine (i : Item) : ∀ l ∈ i.lines, SheetLine l := by
  cases i with
  | rule r => exact r.sheetLine
  | statement l line => simpa [Item.lines] using line
  | media header line _ _ _ rules =>
    apply sheetLine_blockLines (by simpa using line)
    intro l hl
    obtain ⟨r, -, hl⟩ := List.mem_flatMap.1 hl
    exact r.sheetLine l hl
  | keyframes header line _ _ body bodyLine =>
    exact sheetLine_blockLines (by simpa using line) fun l hl => (bodyLine l hl).1

/-- The code of a printed sheet is its lines. -/
theorem texts_codeLines_sheetText (items : List Item) (newline : Bool) :
    texts (codeLines .sheet (sheetText items newline)) = items.flatMap Item.lines := by
  have hall : ∀ l ∈ items.flatMap Item.lines, SheetLine l := by
    intro l hl
    obtain ⟨i, -, hl⟩ := List.mem_flatMap.1 hl
    exact i.sheetLine l hl
  have e : filledLines (sheetText items newline) = items.flatMap Item.lines := by
    have hjoin : filledLines (joinWith ['\n'] (items.flatMap Item.lines)) =
        items.flatMap Item.lines := by
      rw [filledLines_joinWith, flatMap_filledLines fun l hl => (hall l hl).oneLine,
        filled_eq_self fun l hl => (hall l hl).filled]
    cases newline with
    | false => simpa [sheetText] using hjoin
    | true =>
      rw [sheetText, if_pos rfl, filledLines_append_newline, hjoin]
      exact List.append_nil _
  rw [texts_codeLines_of_plain fun l hl => (hall l (e ▸ hl)).plain, e]

/-! ## Constructs -/

theorem startsAtRule_opening (l : List Char) :
    startsAtRule layout (l ++ [' ', '{']) = startsAtRule layout l := by
  have e : trimStart (l ++ [' ', '{']) = trimStart l ++ [' ', '{'] ∨ isBlankText l = true := by
    cases h : isBlankText l with
    | true => exact .inr rfl
    | false => exact .inl (trimStart_append h _)
  rw [startsAtRule, startsAtRule]
  rcases e with e | h
  · rw [e, isBlockAtRule_append (by decide) (by decide)]
  · rw [trimStart_append_of_blank h, trimStart_eq_nil.2 h]
    rfl

theorem startsAtRule_eq_false {l : List Char} (h : isBlockAtRule (trimStart l) = false) :
    startsAtRule layout l = false := by
  simp [startsAtRule, h]

/-- The lines of a style rule make a rule, in a sheet and in a block. -/
theorem StyleRule.complete (r : StyleRule) : Complete layout .rule r.lines := by
  have hsel := List.forall_mem_append.1 r.selectorLine
  obtain ⟨-, hlast, hat⟩ := hsel.2 r.last (by simp)
  have h0 : ∀ m, m <+: r.declarations → depth m = 0 := fun m hm =>
    depth_braceless fun l hl => (r.declarationLine l (hm.mem hl)).2
  refine ⟨r.selectors, r.last ++ [' ', '{'], r.declarations ++ [['}']], rfl, .rule (fun l hl => ?_)
    ?_ (by simp), ?_⟩
  · exact ⟨(hsel.1 l hl).2.1, startsAtRule_eq_false (hsel.1 l hl).2.2, r.noStatement l hl⟩
  · rw [startsAtRule_opening, startsAtRule_eq_false hat]
  · exact closes_blockLines hlast (h0 _ List.prefix_rfl) fun m hm => Int.le_of_eq (h0 m hm).symm

theorem mediaHeader_of_line {header : List Char} (line : SheetLine header)
    (braceless : Braceless header) (trimmed : trim header = header)
    (media : "@media".toList <+: header) :
    MediaHeader [] header where
  filled := by simpa using line.filled
  oneLine := by simpa using line.oneLine
  braceless := by simpa using braceless
  trimmed := by simpa using trimmed
  media := by simpa using media

theorem isBlockAtRule_of_keyframes {header : List Char} (h : isKeyframesHeader header = true) :
    trimStart header = header ∧ isBlockAtRule header = true := by
  refine ⟨?_, isBlockAtRule_iff.2 (.inr h)⟩
  rcases isKeyframesHeader_iff.1 h with ⟨t, rfl⟩ | ⟨v, -, t, rfl⟩
  · exact trimStart_of_not_blank (by decide) _
  · exact trimStart_of_not_blank (by decide) _

namespace Item

/-- The kind and the text of an item's construct; a statement makes none. -/
def view (i : Item) : Option (Construct.Kind × List Char) :=
  match i with
  | rule r => some (.rule, joinWith ['\n'] r.lines)
  | statement .. => none
  | media .. | keyframes .. => some (.atRule, joinWith ['\n'] i.lines)

theorem complete (i : Item) : ∀ v ∈ i.view, Complete .sheet v.1 i.lines ∧ v.2 =
    joinWith ['\n'] i.lines := by
  cases i with
  | rule r => rintro v ⟨⟩; exact ⟨r.complete, rfl⟩
  | statement => rintro v ⟨⟩
  | media header line braceless trimmed hm rules =>
    rintro v ⟨⟩
    have hall : ∀ ls ∈ rules.map StyleRule.lines, Complete .body .rule ls :=
      List.forall_mem_map.2 fun r _ => r.complete
    obtain ⟨h0, hp⟩ := depth_flatten_rules hall
    rw [← List.flatMap_def] at h0 hp
    exact ⟨complete_blockLines (mediaHeader_of_line line braceless trimmed hm) h0 hp, rfl⟩
  | keyframes header line braceless hk body bodyLine =>
    rintro v ⟨⟩
    obtain ⟨ht, hat⟩ := isBlockAtRule_of_keyframes hk
    have hstart : startsAtRule .sheet (header ++ [' ', '{']) = true := by
      rw [startsAtRule_opening, startsAtRule, ht, hat]
      rfl
    have h0 : ∀ m, m <+: body → depth m = 0 := fun m hm => depth_eq_zero fun l hl => by
      have := (bodyLine l (hm.mem hl)).2
      rw [braceDelta_eq_count]
      omega
    exact ⟨⟨[], _, body ++ [['}']], rfl, .atRule (by simp) ⟨_, rfl, hstart⟩ (by simp),
      closes_blockLines braceless (h0 _ List.prefix_rfl) fun m hm => Int.le_of_eq (h0 m hm).symm⟩, rfl⟩

end Item

/-- A run over the lines of items hands back their constructs. -/
theorem run_items (items : List Item) {ls : List (List Char × Nat)}
    (e : texts ls = items.flatMap Item.lines) :
    ∃ cs, Progress.none.run .sheet ls = .ok (cs, .none) ∧
      cs.map Construct.view = items.filterMap Item.view := by
  induction items generalizing ls with
  | nil =>
    obtain rfl : ls = [] := List.map_eq_nil_iff.1 e
    exact ⟨[], rfl, rfl⟩
  | cons i items ih =>
    obtain ⟨as, bs, rfl, ha, hb⟩ := List.map_eq_append_iff.1 e
    obtain ⟨cs, hrun, hcs⟩ := ih hb
    cases hv : i.view with
    | some v =>
      obtain ⟨hc, ht⟩ := i.complete v hv
      rw [← ha] at hc ht
      refine ⟨_, run_append (run_complete hc) hrun, ?_⟩
      rw [List.map_append, hcs, List.filterMap_cons, hv]
      simp [constructOf, Construct.view, Layout.separator, texts, ← ht]
    | none =>
      cases i with
      | rule => cases hv
      | media => cases hv
      | keyframes => cases hv
      | statement l line braceless noAtRule ends =>
        -- the scanner is between constructs again as soon as it has read the line
        obtain ⟨⟨x, n⟩, rs, rfl, rfl, hrs⟩ := List.map_eq_cons_iff.1 ha
        obtain rfl : rs = [] := List.map_eq_nil_iff.1 hrs
        have hstep : Progress.none.step .sheet (x, n) = .ok (none, .none) := by
          rw [Progress.none, step_between, if_neg (by simp [startsAtRule_eq_false noAtRule]),
            if_neg (by simpa using braceless.1), if_neg (by simpa using braceless.2), if_pos ends]
          rfl
        exact ⟨cs, run_cons_eq_ok.2 ⟨none, .none, cs, hstep, hrun, rfl⟩,
          by rw [hcs, List.filterMap_cons, hv]⟩

/-! ## Selected rules -/

theorem separator_eq (layout : Layout) :
    ∃ w, isBlankText w = true ∧ layout.separator = '\n' :: w := by
  cases layout with
  | sheet => exact ⟨[], rfl, rfl⟩
  | body => exact ⟨indent, rfl, rfl⟩

theorem occurs_blockLines {needle : List Char} (hn : isNeedle needle = true) (ho : '{' ∉ needle)
    (hc : '}' ∉ needle) {hs body : List (List Char)} {hl : List Char}
    (h : ∀ l ∈ hs ++ [hl] ++ body, occurs needle l = false) :
    occurs needle (joinWith layout.separator (blockLines hs hl body)) = false := by
  have hopen : occurs needle (hl ++ [' ', '{']) = false := by
    rw [occurs_append_cons ((isNeedle_iff.1 hn).2 ' ' rfl), h hl (by simp), Bool.false_or]
    exact (occurs_append_cons ho [] []).trans (by rw [occurs_nil hn]; rfl)
  have hclose : occurs needle ['}'] = false :=
    (occurs_append_cons hc [] []).trans (by rw [occurs_nil hn]; rfl)
  obtain ⟨w, hw, e⟩ := separator_eq layout
  rw [e]
  apply not_occurs_joinWith hn (by simp) (by simpa using ⟨by decide, hw⟩)
  intro l hl'
  simp only [blockLines, List.mem_append, List.mem_cons, List.not_mem_nil, or_false] at hl'
  rcases hl' with hm | rfl | hm | rfl
  · exact h l (by simp [hm])
  · exact hopen
  · exact h l (by simp [hm])
  · exact hclose

/-- A rule that is written line by line is included if one of its selector lines mentions a class. -/
theorem isIncluded_blockLines (layout : Layout) {hs body : List (List Char)} {hl : List Char}
    (ho : ∀ l ∈ hs ++ [hl], '{' ∉ l)
    (hk : ∀ l ∈ hs ++ [hl] ++ body, occurs "@keyframes".toList l = false)
    (hf : ∀ l ∈ hs ++ [hl] ++ body, occurs "@font-face".toList l = false) :
    isIncluded (joinWith layout.separator (blockLines hs hl body)) target =
      (hs ++ [hl]).any (mentions target) := by
  obtain ⟨w, hw, e⟩ := separator_eq layout
  have hsplit : blockLines hs hl body =
      hs ++ ((hl ++ [' ']) ++ ['{']) :: (body ++ [['}']]) := by simp [blockLines]
  have hfront : '{' ∉ joinWith layout.separator (hs ++ [hl ++ [' ']]) := by
    have hsep : '{' ∉ layout.separator := by
      rw [e, List.mem_cons, not_or]
      exact ⟨by decide, not_mem_of_blank (by decide) hw⟩
    apply not_mem_joinWith hsep
    intro l hl'
    rcases List.mem_append.1 hl' with hm | hm
    · exact ho l (by simp [hm])
    · rw [List.mem_singleton.1 hm]
      simpa using ho hl (by simp)
  rw [isIncluded_eq, occurs_blockLines rfl (by decide) (by decide) hk,
    occurs_blockLines rfl (by decide) (by decide) hf, hsplit, joinWith_append_cons,
    List.singleton_append, takeWhile_append_cons hfront, e, mentions_joinWith (by decide)
    (by decide) hw]
  simp [mentions_append_of_blank (show isBlankText [' '] = true from rfl)]

namespace StyleRule

variable (r : StyleRule)

theorem isIncluded_lines : isIncluded (joinWith Layout.sheet.separator r.lines) target =
    r.selects target :=
  isIncluded_blockLines .sheet (fun l hl => (r.selectorLine l hl).2.1.1) r.noKeyframes r.noFontFace

theorem map_trim_lines :
    r.lines.map trim =
      blockLines (r.selectors.map trim) (trimStart r.last) (r.declarations.map trim) := by
  have hlast : trim (r.last ++ [' ', '{']) = trimStart r.last ++ [' ', '{'] := by
    have hf := (r.selectorLine r.last (by simp)).1.filled
    have e : trimStart r.last ++ [' ', '{'] = (trimStart r.last ++ [' ']) ++ ['{'] := by simp
    rw [trim, trimStart_append hf, e, trimEnd_of_not_blank (by decide)]
  simp [lines, blockLines, hlast, show trim ['}'] = ['}'] from rfl]

theorem isIncluded_map_trim :
    isIncluded (joinWith Layout.body.separator (r.lines.map trim)) target = r.selects target := by
  have hmem : ∀ l ∈ r.selectors.map trim ++ [trimStart r.last] ++ r.declarations.map trim,
      ∃ m ∈ r.selectors ++ [r.last] ++ r.declarations, l <:+: m := by
    intro l hl
    simp only [List.mem_append, List.mem_map, List.mem_singleton] at hl
    rcases hl with (⟨m, hm, rfl⟩ | rfl) | ⟨m, hm, rfl⟩
    · exact ⟨m, by simp [hm], trim_isInfix m⟩
    · exact ⟨r.last, by simp, (trimStart_isSuffix _).isInfix⟩
    · exact ⟨m, by simp [hm], trim_isInfix m⟩
  have never : ∀ {needle}, (∀ l ∈ r.selectors ++ [r.last] ++ r.declarations, occurs needle l = false) →
      ∀ l ∈ r.selectors.map trim ++ [trimStart r.last] ++ r.declarations.map trim,
        occurs needle l = false := by
    intro needle h l hl
    obtain ⟨m, hm, hlm⟩ := hmem l hl
    exact occurs_part hlm (h m hm)
  have hbrace : ∀ l ∈ r.selectors.map trim ++ [trimStart r.last], '{' ∉ l := by
    intro l hl
    simp only [List.mem_append, List.mem_map, List.mem_singleton] at hl
    rcases hl with ⟨m, hm, rfl⟩ | rfl
    · intro hc
      exact (r.selectorLine m (by simp [hm])).2.1.1 ((trim_isInfix m).mem hc)
    · intro hc
      exact (r.selectorLine r.last (by simp)).2.1.1 ((trimStart_isSuffix _).mem hc)
  have hlast : mentions target (trimStart r.last) = mentions target r.last := by
    rw [← mentions_trim, trim_trimStart, mentions_trim]
  rw [map_trim_lines, isIncluded_blockLines .body hbrace (never r.noKeyframes) (never r.noFontFace),
    selects]
  simp [hlast, List.any_map, Function.comp_def]

end StyleRule

/-! ## Filtering a sheet -/

/-- Pruning keeps of an item's construct what is kept of the item. -/
theorem prune_item (target : ClassSet) (i : Item) (n : Nat) :
    ∀ v ∈ i.view, prune target ⟨v.1, v.2, n⟩ = .ok (i.kept target) := by
  cases i with
  | rule r =>
    rintro v ⟨⟩
    refine prune_eq_ok_iff.2 (.inl ⟨rfl, ?_⟩)
    simp only [Item.kept,
      show isIncluded (joinWith ['\n'] r.lines) target = r.selects target from r.isIncluded_lines]
  | statement => rintro v ⟨⟩
  | media header line braceless trimmed hm rules =>
    rintro v ⟨⟩
    refine prune_eq_ok_iff.2 (.inr ⟨rfl, ?_⟩)
    have hall : ∀ ls ∈ rules.map fun r => r.lines.map trim, Complete .body .rule ls :=
      List.forall_mem_map.2 fun r _ => complete_map_trim.2 r.complete
    have hline : ∀ l ∈ rules.flatMap StyleRule.lines, SheetLine l := by
      intro l hl
      obtain ⟨r, -, hl⟩ := List.mem_flatMap.1 hl
      exact r.sheetLine l hl
    have htrim : (rules.flatMap StyleRule.lines).map trim =
        (rules.map fun r => r.lines.map trim).flatten := by
      rw [List.map_flatMap, List.flatMap_def]
    have hkept : includedIn target (rules.map fun r => r.lines.map trim) =
        (rules.filter (·.selects target)).map fun r => joinWith "\n    ".toList (r.lines.map trim) := by
      rw [includedIn, List.map_map, List.filter_map]
      simp only [Function.comp_def, StyleRule.isIncluded_map_trim]
      rfl
    -- the rules are found by their trimmed lines, which select what the lines themselves do
    refine (pruneBlock_blockLines (mediaHeader_of_line line braceless trimmed hm)
      (fun l hl => (hline l hl).noComment)
      (fun l hl => ⟨(hline l hl).filled, (hline l hl).oneLine⟩) hall htrim).trans ?_
    simp only [hkept, Item.kept, List.isEmpty_iff, List.nil_append, joinWith_singleton]
    rfl
  | keyframes header line braceless hk body bodyLine =>
    rintro v ⟨⟩
    refine prune_eq_ok_iff.2 (.inr ⟨rfl, pruneBlock_keyframes ?_⟩)
    obtain ⟨ht, -⟩ := isBlockAtRule_of_keyframes hk
    have e : joinWith ['\n'] (blockLines [] header body) =
        header ++ ([' '] ++ '{' :: (blockBody body ++ ['}'])) := by
      rw [joinWith_blockLines]
      simp
    have hstart : trimStart (header ++ ([' '] ++ '{' :: (blockBody body ++ ['}']))) =
        header ++ ([' '] ++ '{' :: (blockBody body ++ ['}'])) := by
      rw [trimStart_append line.filled, ht]
    rw [Item.lines, e, hstart]
    exact isKeyframesHeader_mono (List.prefix_append _ _) hk

theorem accepted_items (target : ClassSet) (items : List Item) {cs : List Construct}
    (e : cs.map Construct.view = items.filterMap Item.view) :
    ∃ ts, Accepted target cs ts ∧ ts.map Prod.snd = items.filterMap (Item.kept target) := by
  induction items generalizing cs with
  | nil =>
    obtain rfl : cs = [] := List.map_eq_nil_iff.1 e
    exact ⟨[], .nil, rfl⟩
  | cons i items ih =>
    cases hv : i.view with
    | none =>
      have hkept : i.kept target = none := by
        cases i <;> first | rfl | cases hv
      rw [List.filterMap_cons, hv] at e
      rw [List.filterMap_cons, hkept]
      exact ih e
    | some v =>
      rw [List.filterMap_cons, hv] at e
      obtain ⟨c, cs, rfl, hc, hcs⟩ := List.map_eq_cons_iff.1 e
      obtain ⟨kind, text, n⟩ := c
      obtain rfl : (kind, text) = v := hc
      obtain ⟨ts, hts, hmap⟩ := ih hcs
      have hp := prune_item target i n _ hv
      cases hkept : i.kept target with
      | none =>
        rw [hkept] at hp
        exact ⟨ts, .drop hp hts, by rw [List.filterMap_cons, hkept, hmap]⟩
      | some t =>
        rw [hkept] at hp
        exact ⟨_, .keep hp hts, by rw [List.filterMap_cons, hkept, List.map_cons, hmap]⟩

/-- Filtering a sheet that is laid out by lines keeps of each item what it should, in order and with a
blank line between neighbours, and trims the whole. -/
theorem filter_sheetText (items : List Item) (newline : Bool) (target : ClassSet) :
    filter (sheetText items newline) target { maxBytes := none } =
      .ok (trim (joinWith ['\n', '\n'] (items.filterMap (Item.kept target)))) := by
  obtain ⟨cs, hrun, hview⟩ := run_items items (texts_codeLines_sheetText items newline)
  obtain ⟨ts, hts, hmap⟩ := accepted_items target items hview
  refine filter_eq_ok_iff.2 ⟨cs, ts, scan_eq_ok_iff.2 ⟨_, hrun⟩, hts, ?_⟩
  rw [hmap, renderSheet_eq]

/-- A sheet with an item of each kind, and one rule more that is not selected. -/
theorem filter_sheetText_kinds :
    let rule : StyleRule := {
      selectors := [".a,".toList], last := "  .b".toList, declarations := ["  x: y;".toList]
      selectorLine := by decide, declarationLine := by decide, noStatement := by decide
      noKeyframes := by decide, noFontFace := by decide }
    let unused : StyleRule := {
      selectors := [], last := ".c".toList, declarations := []
      selectorLine := by decide, declarationLine := by decide, noStatement := by decide
      noKeyframes := by decide, noFontFace := by decide }
    let items : List Item := [
      .statement "@import url(s.css);".toList (by decide) (by decide) (by decide) (by decide),
      .rule rule, .rule unused,
      .media "@media print".toList (by decide) (by decide) (by decide) (by decide) [unused, rule],
      .keyframes "@-x-keyframes spin".toList (by decide) (by decide) (by decide)
        ["to \x7b top: 0 \x7d".toList] (by decide)]
    let css := ("@import url(s.css);\n.a,\n  .b \x7b\n  x: y;\n\x7d\n.c \x7b\n\x7d\n" ++
      "@media print \x7b\n.c \x7b\n\x7d\n.a,\n  .b \x7b\n  x: y;\n\x7d\n\x7d\n" ++
      "@-x-keyframes spin \x7b\nto \x7b top: 0 \x7d\n\x7d\n").toList
    sheetText items true = css ∧
      filter css (ClassSet.ofList ["b"]) { maxBytes := none } =
        .ok (".a,\n  .b \x7b\n  x: y;\n\x7d\n\n" ++
          "@media print \x7b\n    .a,\n    .b \x7b\n    x: y;\n    \x7d\n\x7d\n\n" ++
          "@-x-keyframes spin \x7b\nto \x7b top: 0 \x7d\n\x7d").toList := by
  intro rule unused items css
  have hcss : sheetText items true = css := by decide +kernel
  refine ⟨hcss, ?_⟩
  rw [← hcss, filter_sheetText]
  decide +kernel

end UsedCss.Css
