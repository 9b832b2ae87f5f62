import UsedCss.Proofs.Css.Comment
import UsedCss.Proofs.Css.WellNested
/-!
# What the output is made of

Filtering copies texts to its output (`Copied`), and prints blanks between them and two braces around
the rules of a media block. So the output nests if and only if every copied text nests where it is
printed, and it has a comment opener if and only if a copied text has one. Neither is sure: a line is
only read up to its end, so it may close a brace before it opens one, and taking out a comment may put
another opener together.
-/

namespace UsedCss.Css

open UsedCss.Text

variable {target : ClassSet} {options : FilterOptions} {c : Construct} {block : MediaBlock} {css o : List Char}
  {cs : List Construct} {ts : List (Construct.Kind × List Char)} {P : Int → List Char → Prop}

/-! ## Copied texts -/

/-- The rules of a block that are included. -/
def MediaBlock.included (target : ClassSet) (block : MediaBlock) : List (List Char) :=
  match scan .body block.body with
  | .ok ds => includedRules target ds
  | .error _ => []

/-- A text that is copied from a construct to the output, inside that many braces that are printed
around it. -/
inductive Copied (target : ClassSet) (c : Construct) : Int → List Char → Prop
  | rule : c.kind = .rule → isIncluded c.text target = true → Copied target c 0 c.text
  | keyframes : c.kind = .atRule → isKeyframesHeader (trimStart c.text) = true → Copied target c 0 c.text
  | header {block : MediaBlock} : c.kind = .atRule → isKeyframesHeader (trimStart c.text) = false →
      MediaBlock.ofText? c.text = some block → block.included target ≠ [] → Copied target c 0 block.header
  | inner {block : MediaBlock} {t : List Char} : c.kind = .atRule →
      isKeyframesHeader (trimStart c.text) = false → MediaBlock.ofText? c.text = some block →
      t ∈ block.included target → Copied target c 1 t

/-- Of the block that is rebuilt from a construct, `P` says what it says of the texts copied to it. -/
def Splits (P : Int → List Char → Prop) (target : ClassSet) (c : Construct) : Prop :=
  ∀ block, MediaBlock.ofText? c.text = some block →
    (P 0 (renderBlock block.header (block.included target)) ↔
      P 0 block.header ∧ ∀ t ∈ block.included target, P 1 t)

/-- What is left of an at-rule that is not a keyframes block. -/
theorem prune_media {r : Option (List Char)} (h : prune target c = .ok r) (hat : c.kind = .atRule)
    (hk : isKeyframesHeader (trimStart c.text) = false) :
    MediaBlock.ofText? c.text = none ∧ r = none ∨ ∃ block, MediaBlock.ofText? c.text = some block ∧
      r = if block.included target = [] then none
        else some (renderBlock block.header (block.included target)) := by
  rcases prune_eq_ok_iff.1 h with ⟨hrule, -⟩ | ⟨-, h⟩
  · rw [hat] at hrule
    cases hrule
  cases hb : MediaBlock.ofText? c.text with
  | none =>
    rw [pruneBlock_none hk hb] at h
    cases h
    exact .inl ⟨rfl, rfl⟩
  | some block =>
    refine .inr ⟨block, rfl, ?_⟩
    rw [pruneBlock_eq hk hb] at h
    unfold MediaBlock.included
    cases hs : scan .body block.body with
    | error e =>
      rw [hs] at h
      cases h
    | ok ds =>
      rw [hs] at h
      cases h
      rfl

theorem copied_rule_iff {d : Int} {t : List Char} (h : c.kind = .rule) :
    Copied target c d t ↔ isIncluded c.text target = true ∧ d = 0 ∧ t = c.text := by
  constructor
  · rintro (⟨-, hi⟩ | ⟨hat, -⟩ | ⟨hat, -⟩ | ⟨hat, -⟩)
    · exact ⟨hi, rfl, rfl⟩
    all_goals
      rw [h] at hat
      cases hat
  · rintro ⟨hi, rfl, rfl⟩
    exact .rule h hi

theorem copied_keyframes_iff {d : Int} {t : List Char} (hat : c.kind = .atRule)
    (hk : isKeyframesHeader (trimStart c.text) = true) : Copied target c d t ↔ d = 0 ∧ t = c.text := by
  constructor
  · rintro (⟨h, -⟩ | ⟨-, -⟩ | ⟨-, h, -⟩ | ⟨-, h, -⟩)
    · rw [hat] at h
      cases h
    · exact ⟨rfl, rfl⟩
    all_goals
      rw [hk] at h
      cases h
  · rintro ⟨rfl, rfl⟩
    exact .keyframes hat hk

theorem copied_media_iff {d : Int} {t : List Char} (hat : c.kind = .atRule)
    (hk : isKeyframesHeader (trimStart c.text) = false) : Copied target c d t ↔
      ∃ block, MediaBlock.ofText? c.text = some block ∧ block.included target ≠ [] ∧
        (d = 0 ∧ t = block.header ∨ d = 1 ∧ t ∈ block.included target) := by
  constructor
  · rintro (⟨h, -⟩ | ⟨-, h⟩ | ⟨-, -, hb, hne⟩ | ⟨-, -, hb, ht⟩)
    · rw [hat] at h
      cases h
    · rw [hk] at h
      cases h
    · exact ⟨_, hb, hne, .inl ⟨rfl, rfl⟩⟩
    · exact ⟨_, hb, List.ne_nil_of_mem ht, .inr ⟨rfl, ht⟩⟩
  · rintro ⟨block, hb, hne, ⟨rfl, rfl⟩ | ⟨rfl, ht⟩⟩
    · exact .header hat hk hb hne
    · exact .inner hat hk hb ht

/-- What is told of the text that is left of a construct is told of the texts copied from it. -/
theorem forall_copied_iff {r : Option (List Char)} (h : prune target c = .ok r) (hP : Splits P target c) :
    (∀ t ∈ r, P 0 t) ↔ ∀ d t, Copied target c d t → P d t := by
  rcases prune_eq_ok_iff.1 h with ⟨hrule, rfl⟩ | ⟨hat, hp⟩
  · simp only [copied_rule_iff hrule]
    cases isIncluded c.text target <;> simp
  cases hk : isKeyframesHeader (trimStart c.text) with
  | true =>
    rw [pruneBlock_keyframes hk] at hp
    cases hp
    simp [copied_keyframes_iff hat hk]
  | false =>
    simp only [copied_media_iff hat hk]
    rcases prune_media h hat hk with ⟨hb, rfl⟩ | ⟨block, hb, rfl⟩
    · simp [hb]
    rcases eq_or_ne (block.included target) [] with he | hne
    · simp [hb, he]
    · -- the header and the rules are copied to the rebuilt block
      rw [if_neg hne]
      constructor
      · rintro hr d t ⟨block', hb', -, hcopied⟩
        obtain rfl : block = block' := Option.some.inj (hb.symm.trans hb')
        obtain ⟨hheader, hinner⟩ := (hP block hb).1 (hr _ rfl)
        rcases hcopied with ⟨rfl, rfl⟩ | ⟨rfl, ht⟩
        · exact hheader
        · exact hinner t ht
      · rintro hall t ⟨⟩
        exact (hP block hb).2 ⟨hall 0 _ ⟨block, hb, hne, .inl ⟨rfl, rfl⟩⟩,
          fun t ht => hall 1 t ⟨block, hb, hne, .inr ⟨rfl, ht⟩⟩⟩

/-- The same for all that is left of constructs. -/
theorem forall_accepted_iff (ha : Accepted target cs ts) (hP : ∀ c ∈ cs, Splits P target c) :
    (∀ x ∈ ts, P 0 x.2) ↔ ∀ c ∈ cs, ∀ d t, Copied target c d t → P d t := by
  induction ha with
  | nil => simp
  | drop hp _ ih =>
    rw [List.forall_mem_cons] at hP ⊢
    rw [← forall_copied_iff hp hP.1, ← ih hP.2]
    simp
  | keep hp _ ih =>
    rw [List.forall_mem_cons] at hP
    rw [List.forall_mem_cons, List.forall_mem_cons, ← forall_copied_iff hp hP.1, ← ih hP.2]
    simp

/-- An included rule is the text of a construct of the body. -/
theorem mem_included {t : List Char} (h : t ∈ block.included target) :
    ∃ ds, scan .body block.body = .ok ds ∧ ∃ d ∈ ds, t = d.text := by
  unfold MediaBlock.included at h
  split at h
  · next ds hs =>
    obtain ⟨d, hd, rfl⟩ := List.mem_map.1 h
    exact ⟨ds, hs, d, List.mem_of_mem_filter hd, rfl⟩
  · cases h

/-! ## Braces -/

theorem count_braces_eq_iff {a : List Char} : a.count '{' = a.count '}' ↔ braceDelta a = 0 := by
  rw [braceDelta_eq_count]
  omega

theorem not_mem_header {text : List Char} (h : MediaBlock.ofText? text = some block) :
    '{' ∉ block.header := by
  obtain ⟨a, b, r, ha, -, -, rfl⟩ := exists_of_ofText? h
  exact fun hm => ha ((trim_isInfix a).mem hm)

theorem trim_header {text : List Char} (h : MediaBlock.ofText? text = some block) :
    trim block.header = block.header := by
  obtain ⟨a, b, r, -, -, -, rfl⟩ := exists_of_ofText? h
  exact trim_trim a

theorem braceDelta_included : ∀ t ∈ block.included target, braceDelta t = 0 := by
  intro t ht
  obtain ⟨ds, hs, d, hd, rfl⟩ := mem_included ht
  exact braceDelta_construct hs d hd

theorem braces_renderBlock (header : List Char) (rules : List (List Char)) :
    braces (renderBlock header rules) = braces (header ++ ['{'] ++ rules.flatten ++ ['}']) := by
  have hsep : isBlankText (['\n', '\n'] ++ indent) = true := rfl
  have hopen : braces [' ', '{'] = braces ['{'] := rfl
  have hindent : braces ('\n' :: indent) = [] := rfl
  have hclose : braces ('\n' :: ['}']) = braces ['}'] := rfl
  have e : renderBlock header rules = header ++ [' ', '{'] ++ ('\n' :: indent) ++
      joinWith (['\n', '\n'] ++ indent) rules ++ '\n' :: ['}'] := by
    rw [renderBlock_eq]
    simp
  rw [e]
  simp only [braces_append, braces_joinWith hsep, hopen, hindent, hclose, List.append_nil]

/-- A rebuilt block nests if its header does and its rules do inside it. -/
theorem nests_renderBlock {header : List Char} {rules : List (List Char)} (ho : '{' ∉ header)
    (h : ∀ t ∈ rules, braceDelta t = 0) :
    Nests 0 (renderBlock header rules) ↔ Nests 0 header ∧ ∀ t ∈ rules, Nests 1 t := by
  have hrules : braceDelta rules.flatten = 0 := depth_eq_zero h
  rw [nests_congr (braces_renderBlock header rules), nests_append, nests_append, nests_append,
    ← nests_flatten (by decide) fun t ht _ => h t ht, and_assoc, and_assoc]
  refine and_congr_right fun hn => ?_
  -- a header that opens nothing nests only if it has no braces at all
  have hb : braceDelta header = 0 := (braceless_of_delta ho (by simpa using hn.end_nonneg)).delta
  have hopen : braceDelta ['{'] = 1 := rfl
  have hclose : braceDelta ['}'] = -1 := rfl
  simp only [braceDelta_append, nests_singleton, hb, hopen, hclose, hrules, Int.zero_add, Int.add_zero]
  simp

theorem splits_braceDelta {p : Int → Prop} (h0 : p 0) : Splits (fun _ t => p (braceDelta t)) target c := by
  intro block _
  beta_reduce
  rw [braceDelta_renderBlock, depth_eq_zero braceDelta_included, Int.add_zero]
  refine ⟨fun h => ⟨h, fun t ht => ?_⟩, And.left⟩
  rwa [braceDelta_included t ht]

theorem splits_nests : Splits Nests target c := fun _ hb =>
  nests_renderBlock (not_mem_header hb) braceDelta_included

/-- A copied text closes no less than it opens: only a header may be unbalanced. -/
theorem braceDelta_copied_le {d : Int} {t : List Char} (h : scan .sheet css = .ok cs) (hc : c ∈ cs)
    (ht : Copied target c d t) : braceDelta t ≤ 0 := by
  cases ht with
  | rule _ _ => exact Int.le_of_eq (braceDelta_construct h c hc)
  | keyframes _ _ => exact Int.le_of_eq (braceDelta_construct h c hc)
  | header _ _ hb _ =>
    rw [braceDelta_eq_count, List.count_eq_zero.2 (not_mem_header hb)]
    omega
  | inner _ _ _ ht => exact Int.le_of_eq (braceDelta_included t ht)

theorem braces_renderSheet (us : List (List Char)) : braces (renderSheet us) = braces us.flatten := by
  rw [renderSheet_eq, braces_trim, braces_joinWith rfl]

theorem braceDelta_renderSheet (us : List (List Char)) : braceDelta (renderSheet us) = depth us :=
  braceDelta_congr (braces_renderSheet us)

/-- What is left of a construct closes no less than it opens. -/
theorem braceDelta_accepted_le (h : scan .sheet css = .ok cs) (ha : Accepted target cs ts) :
    ∀ l ∈ ts.map Prod.snd, braceDelta l ≤ 0 := by
  have hcopied : ∀ c ∈ cs, ∀ d t, Copied target c d t → braceDelta t ≤ 0 := fun c hc d t ht =>
    braceDelta_copied_le h hc ht
  exact List.forall_mem_map.2
    ((forall_accepted_iff ha fun _ _ => splits_braceDelta (p := (· ≤ 0)) (Int.le_refl 0)).2 hcopied)

theorem count_renderSheet_iff (h : scan .sheet css = .ok cs) (ha : Accepted target cs ts)
    (ho : o = renderSheet (ts.map Prod.snd)) :
    o.count '{' = o.count '}' ↔ ∀ c ∈ cs, ∀ d t, Copied target c d t → t.count '{' = t.count '}' := by
  rw [count_braces_eq_iff, ho, braceDelta_renderSheet, depth_eq_zero_iff (braceDelta_accepted_le h ha),
    List.forall_mem_map]
  simp only [count_braces_eq_iff]
  exact forall_accepted_iff ha fun _ _ => splits_braceDelta (p := (· = 0)) rfl

theorem wellNested_renderSheet_iff (h : scan .sheet css = .ok cs) (ha : Accepted target cs ts)
    (ho : o = renderSheet (ts.map Prod.snd)) :
    WellNested o ↔ ∀ c ∈ cs, ∀ d t, Copied target c d t → Nests d t := by
  -- a text that nests closes no more than it opens, so it leaves the next one at the same level
  have hzero : ∀ l ∈ ts.map Prod.snd, Nests 0 l → braceDelta l = 0 := by
    intro l hl hn
    have := hn.end_nonneg
    have := braceDelta_accepted_le h ha l hl
    omega
  rw [wellNested_iff, ho, nests_congr (braces_renderSheet _), nests_flatten (Int.le_refl 0) hzero,
    List.forall_mem_map]
  exact forall_accepted_iff ha fun _ _ => splits_nests

/-- From a well-nested sheet without comment openers, all that is copied nests where it is printed. -/
theorem nests_copied (hc : ∀ l ∈ stripLines false (lines css), occurs commentOpen l = false)
    (hn : WellNested (joinWith ['\n'] (stripLines false (lines css)))) (h : scan .sheet css = .ok cs)
    (hmem : c ∈ cs) {d : Int} {t : List Char} (ht : Copied target c d t) : Nests d t := by
  have hwhole : Nests 0 c.text := nests_construct h (wellNested_joinWith.1 hn) c hmem
  cases ht with
  | rule _ _ => exact hwhole
  | keyframes _ _ => exact hwhole
  | @header block hat _ hb _ =>
    obtain ⟨a, b, r, htext, ha, hr, -⟩ := exists_atRuleBlock hc hn h hmem hat
    rw [htext, ofText?_append ha.1 hr.2] at hb
    cases hb
    rw [htext, nests_append] at hwhole
    exact (nests_congr (braces_trim a)).2 hwhole.1
  | @inner block _ hat _ hb ht =>
    obtain ⟨a, b, r, htext, ha, hr, -, hnb, hno, -⟩ := exists_atRuleBlock hc hn h hmem hat
    rw [htext, ofText?_append ha.1 hr.2] at hb
    cases hb
    obtain ⟨ds, hs, e, he, rfl⟩ := mem_included ht
    exact nests_construct hs ((nests_congr (braces_lines_body hno)).2 hnb) e he

/-- The braces of the output balance, and none closes more than is open, if and only if that holds of
every text that is copied to it, the texts inside a block starting at one open brace. For a
well-nested sheet without comment openers it does. -/
theorem filter_wellNested_iff (h : filter css target options = .ok o) :
    (∃ cs, scan .sheet css = .ok cs ∧
      (o.count '{' = o.count '}' ↔ ∀ c ∈ cs, ∀ d t, Copied target c d t → t.count '{' = t.count '}') ∧
      (WellNested o ↔ ∀ c ∈ cs, ∀ d t, Copied target c d t → Nests d t)) ∧
    ((∀ l ∈ stripLines false (lines css), occurs commentOpen l = false) →
      WellNested (joinWith ['\n'] (stripLines false (lines css))) →
      o.count '{' = o.count '}' ∧ WellNested o) := by
  obtain ⟨cs, ts, hs, ha, ho⟩ := filter_eq_ok_iff.1 (filter_of_options h)
  have hcount := count_renderSheet_iff hs ha ho
  have hnested := wellNested_renderSheet_iff hs ha ho
  refine ⟨⟨cs, hs, hcount, hnested⟩, fun hc hn => ?_⟩
  have hw : WellNested o := hnested.2 fun c hmem d t ht => nests_copied hc hn hs hmem ht
  have hle : braceDelta o ≤ 0 := by
    rw [ho, braceDelta_renderSheet]
    exact depth_nonpos (braceDelta_accepted_le hs ha)
  have hge := (wellNested_iff.1 hw).end_nonneg
  exact ⟨count_braces_eq_iff.2 (by omega), hw⟩

/-- A media block that loses one of its two rules. -/
theorem filter_wellNested_iff_media :
    filter "@media p \x7b .a \x7b x \x7d\n.b \x7b y \x7d \x7d".toList (ClassSet.ofList ["b"]) =
        .ok "@media p \x7b\n    .b \x7b y \x7d\n\x7d".toList ∧
      "@media p \x7b\n    .b \x7b y \x7d\n\x7d".toList.count '{' =
        "@media p \x7b\n    .b \x7b y \x7d\n\x7d".toList.count '}' ∧
      WellNested "@media p \x7b\n    .b \x7b y \x7d\n\x7d".toList := by
  have h : filter "@media p \x7b .a \x7b x \x7d\n.b \x7b y \x7d \x7d".toList (ClassSet.ofList ["b"]) =
      .ok "@media p \x7b\n    .b \x7b y \x7d\n\x7d".toList := by decide +kernel
  have hn : ∀ m ∈ (joinWith ['\n'] (stripLines false
      (lines "@media p \x7b .a \x7b x \x7d\n.b \x7b y \x7d \x7d".toList))).inits,
      m.count '}' ≤ m.count '{' := by decide +kernel
  exact ⟨h, (filter_wellNested_iff h).2 (by decide +kernel) fun m hm => hn m ((List.mem_inits m _).2 hm)⟩

/-- The first brace closes nothing, but its line ends as deep as it starts. The block is cut at its first
opening brace, so the header keeps the closing one. -/
theorem filter_media_of_header_closes :
    filter "@media \x7d \x7b .a \x7b \x7d \x7d \x7b".toList (ClassSet.ofList ["a"]) =
        .ok "@media \x7d \x7b\n    .a \x7b \x7d\n\x7d".toList ∧
      "@media \x7d \x7b\n    .a \x7b \x7d\n\x7d".toList.count '{' ≠
        "@media \x7d \x7b\n    .a \x7b \x7d\n\x7d".toList.count '}' ∧
      ¬ WellNested "@media \x7d \x7b\n    .a \x7b \x7d\n\x7d".toList := by
  refine ⟨by decide +kernel, by decide, fun h => ?_⟩
  exact absurd (h "@media \x7d".toList (by decide)) (by decide)

/-! ## Comments -/

theorem occurs_renderBlock (header : List Char) (rules : List (List Char)) :
    occurs commentOpen (renderBlock header rules) =
      (occurs commentOpen header || rules.any (occurs commentOpen)) := by
  have hsep : isBlankText (['\n', '\n'] ++ indent) = true := rfl
  have hclose : occurs commentOpen ['}'] = false := rfl
  have hopen : occurs commentOpen ['{'] = false := rfl
  rw [renderBlock_eq, occurs_append_cons (by decide), occurs_append_cons (by decide),
    occurs_append_cons (by decide), occurs_of_blank_append rfl rfl, occurs_joinWith rfl (by simp) hsep,
    hclose, hopen, Bool.or_false, Bool.or_false]

theorem splits_comment : Splits (fun _ t => occurs commentOpen t = false) target c := by
  intro block _
  beta_reduce
  rw [occurs_renderBlock, Bool.or_eq_false_iff, List.any_eq_false]
  simp only [Bool.not_eq_true]

theorem occurs_renderSheet_iff (ha : Accepted target cs ts) :
    occurs commentOpen (renderSheet (ts.map Prod.snd)) = false ↔
      ∀ c ∈ cs, ∀ d t, Copied target c d t → occurs commentOpen t = false := by
  rw [occurs_renderSheet, List.any_eq_false, List.forall_mem_map]
  simp only [Bool.not_eq_true]
  exact forall_accepted_iff ha fun _ _ => splits_comment

/-- The rules in a block without comment openers have none. -/
theorem occurs_rules {text : List Char} {ds : List Construct} (hc : occurs commentOpen text = false)
    (hb : MediaBlock.ofText? text = some block) (hs : scan .body block.body = .ok ds) :
    ∀ d ∈ ds, occurs commentOpen d.text = false := by
  obtain ⟨a, b, r, -, -, rfl, rfl⟩ := exists_of_ofText? hb
  have hbody : trim b <:+: a ++ '{' :: (b ++ '}' :: r) :=
    (trim_isInfix b).trans ⟨a ++ ['{'], '}' :: r, by simp⟩
  have hlines : ∀ l ∈ lines (trim b), occurs commentOpen l = false := fun l hl =>
    occurs_part ((mem_lines hl).2.trans hbody) hc
  exact occurs_construct hs (by rwa [stripLines_of_no_comment hlines])

/-- What is copied from a construct without comment openers has none. -/
theorem occurs_copied {d : Int} {t : List Char} (h : occurs commentOpen c.text = false)
    (ht : Copied target c d t) : occurs commentOpen t = false := by
  cases ht with
  | rule _ _ => exact h
  | keyframes _ _ => exact h
  | header _ _ hb _ =>
    obtain ⟨a, b, r, -, -, htext, rfl⟩ := exists_of_ofText? hb
    rw [htext] at h
    exact occurs_part ((trim_isInfix a).trans (List.prefix_append a _).isInfix) h
  | @inner block t _ _ hb ht =>
    obtain ⟨ds, hs, e, he, rfl⟩ := mem_included ht
    exact occurs_rules h hb hs e he

/-- The output has no comment opener if and only if no text that is copied to it has one. None has if
no line of the sheet puts one together. -/
theorem filter_comment_iff (h : filter css target options = .ok o) :
    (∃ cs, scan .sheet css = .ok cs ∧
      (occurs commentOpen o = false ↔
        ∀ c ∈ cs, ∀ d t, Copied target c d t → occurs commentOpen t = false)) ∧
    ((∀ before l after, lines css = before ++ l :: after → ¬ Rejoins (endsInside false before) l) →
      occurs commentOpen o = false) := by
  obtain ⟨cs, ts, hs, ha, rfl⟩ := filter_eq_ok_iff.1 (filter_of_options h)
  refine ⟨⟨cs, hs, occurs_renderSheet_iff ha⟩, fun hno => ?_⟩
  have hc : ∀ l ∈ stripLines false (lines css), occurs commentOpen l = false := by
    intro l hl
    by_contra hl'
    obtain ⟨before, m, after, e, hr⟩ := occurs_stripLines_iff.1 ⟨l, hl, Bool.not_eq_false _ ▸ hl'⟩
    exact hno before m after e hr
  exact (occurs_renderSheet_iff ha).2 fun c hmem d t ht => occurs_copied (occurs_construct hs hc c hmem) ht

/-- Comments between other characters than a slash and a star. -/
theorem filter_comment_iff_rule :
    filter ".a /* x */ \x7b y: /**/z/*\n*/* w \x7d".toList (ClassSet.ofList ["a"]) =
        .ok ".a  \x7b y: z\n* w \x7d".toList ∧
      occurs commentOpen ".a  \x7b y: z\n* w \x7d".toList = false := by
  have h : filter ".a /* x */ \x7b y: /**/z/*\n*/* w \x7d".toList (ClassSet.ofList ["a"]) =
      .ok ".a  \x7b y: z\n* w \x7d".toList := by decide +kernel
  have hcode : ¬ ∃ l ∈ stripLines false (lines ".a /* x */ \x7b y: /**/z/*\n*/* w \x7d".toList),
      occurs commentOpen l = true := by decide +kernel
  exact ⟨h, (filter_comment_iff h).2 fun before l after e hr =>
    hcode (occurs_stripLines_iff.2 ⟨before, l, after, e, hr⟩)⟩

/-- Without the empty comment the slash and the star are an opener, which hides the second rule. -/
theorem filter_comment_of_rejoins :
    filter ".a \x7b x: //**/* y; \x7d\n.b \x7b z \x7d".toList (ClassSet.ofList ["a", "b"]) =
        .ok ".a \x7b x: /* y; \x7d\n\n.b \x7b z \x7d".toList ∧
      occurs commentOpen ".a \x7b x: /* y; \x7d\n\n.b \x7b z \x7d".toList = true :=
  ⟨by decide +kernel, by decide⟩

end UsedCss.Css
