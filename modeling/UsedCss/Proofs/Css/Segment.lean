import UsedCss.Proofs.Css.Construct
/-!
# Constructs and the lines between them

Every run cuts its lines into constructs and segments that come to nothing (`exists_cut`), so a
scan loses, repeats and moves no line.
-/

namespace UsedCss.Css

open UsedCss.Text

variable {layout : Layout} {kind : Construct.Kind} {head : List (List Char)} {l : List Char}
  {p q : Progress} {n : Nat}

/-! ## The lines that a progress holds -/

/-- `Held layout ls p`: the progress `p` holds the lines `ls`, which complete nothing yet. -/
inductive Held (layout : Layout) : List (List Char × Nat) → Progress → Prop
  | selectors {ls} : (∀ m ∈ texts ls, SelectorLine layout m) →
      Held layout ls (.between (texts ls).reverse (firstNumber ls))
  | header {ls} : (∀ m ∈ texts ls, Braceless m) →
      (∃ m ∈ (texts ls).head?, startsAtRule layout m = true) →
      Held layout ls (.inAtRule (texts ls).reverse 0 false (firstNumber ls))
  | block {ls kind head l rest} : texts ls = head ++ l :: rest → Opens layout kind head l →
      StaysOpen (braceDelta l) rest →
      Held layout ls (.inBlock kind (texts ls).reverse (depth (texts ls)) (firstNumber ls))

theorem held_none : Held layout [] .none := @Held.selectors layout [] (by simp)

/-- What one more line does to the lines held: it is held too, or it completes them, or it
ends them as a statement. -/
inductive Effect (layout : Layout) (ls : List (List Char × Nat)) :
    Option Construct → Progress → Prop
  | held {q : Progress} : Held layout ls q → Effect layout ls none q
  | completes {kind : Construct.Kind} : Complete layout kind (texts ls) →
      Effect layout ls (some (constructOf layout kind ls)) .none
  | statement {l : List Char} : (∀ m ∈ texts ls, Braceless m) →
      l ∈ (texts ls).getLast? → endsStatement l = true → Effect layout ls none .none

/-- Inside a block. -/
theorem effect_inBlock {ls : List (List Char × Nat)} {rest : List (List Char)}
    {c : Option Construct}
    (e : texts ls = head ++ l :: rest) (ho : Opens layout kind head l)
    (hrest : ∀ m, m <+: rest → m ≠ rest → 0 < braceDelta l + depth m)
    (hs : (Progress.inBlock kind (texts ls).reverse (depth (texts ls)) (firstNumber ls)).settle
      layout n = .ok (c, q)) :
    Effect layout ls c q := by
  have hd : depth (texts ls) = braceDelta l + depth rest := by
    rw [e, depth_append, depth_cons, depth_braceless ho.braceless, Int.zero_add]
  rw [settle_inBlock] at hs
  split at hs
  · cases hs
  · split at hs
    · next h0 =>
      cases hs
      rw [List.reverse_reverse]
      exact .completes ⟨head, l, rest, e, ho, by rw [← hd, h0], hrest⟩
    · cases hs
      refine .held (.block e ho fun m hm => ?_)
      rcases eq_or_ne m rest with rfl | hne
      · omega
      · exact hrest m hm hne

/-- The first line of a block, after the lines that stand in front of it. -/
theorem effect_opens (ls : List (List Char × Nat)) (l : List Char × Nat) {c : Option Construct}
    (ho : Opens layout kind (texts ls) l.1)
    (hs : (Progress.inBlock kind (texts (ls ++ [l])).reverse (braceDelta l.1)
      (firstNumber (ls ++ [l]))).settle layout n = .ok (c, q)) : Effect layout (ls ++ [l]) c q := by
  have hd : braceDelta l.1 = depth (texts (ls ++ [l])) := by
    simp [depth_braceless ho.braceless]
  rw [hd] at hs
  have e : texts (ls ++ [l]) = texts ls ++ l.1 :: [] := by simp
  refine effect_inBlock e ho (fun m hm hne => ?_) hs
  exact absurd (List.prefix_nil.1 hm) hne

/-- A line that starts an at-rule, between constructs. -/
theorem effect_startsAtRule {l : List Char × Nat} {c : Option Construct}
    (hat : startsAtRule layout l.1 = true) {before : List (List Char)} {k : Nat}
    (hs : (Progress.between before k).step layout l = .ok (c, q)) :
    Effect layout [l] c q := by
  rw [step_startsAtRule hat] at hs
  cases ho : l.1.contains '{' with
  | true =>
    rw [ho] at hs
    have hopens : Opens layout .atRule [] l.1 :=
      .atRule (by simp) ⟨l.1, by simp, hat⟩ (by simpa using ho)
    exact effect_opens [] l hopens hs
  | false =>
    rw [ho, settle_inAtRule] at hs
    split at hs
    · cases hs
    · next hd =>
      have hb : Braceless l.1 := braceless_of_delta (by simpa using ho) (by omega)
      rw [hb.delta] at hs
      cases hs
      exact .held (@Held.header layout [l] (by simpa using hb) ⟨l.1, by simp, hat⟩)

/-- A line that starts no at-rule, after selector lines. -/
theorem effect_selectors {ls : List (List Char × Nat)} {l : List Char × Nat} {c : Option Construct}
    (h : ∀ m ∈ texts ls, SelectorLine layout m) (hat : startsAtRule layout l.1 = false)
    (hs : (Progress.between (texts ls).reverse (firstNumber ls)).step layout l = .ok (c, q)) :
    Effect layout (ls ++ [l]) c q := by
  rw [step_between, if_neg (by simpa using hat), ← firstNumber_concat] at hs
  by_cases ho : l.1.contains '{' = true
  · rw [if_pos ho] at hs
    refine effect_opens ls l (.rule h hat (by simpa using ho)) (n := l.2) (.trans ?_ hs)
    simp [Progress.inBlock]
  rw [if_neg ho] at hs
  split at hs
  · cases hs
  next hc =>
  have hl : Braceless l.1 := ⟨by simpa using ho, by simpa using hc⟩
  split at hs
  · next he =>
    cases hs
    have hb : ∀ m ∈ texts ls, Braceless m := fun m hm => (h m hm).braceless
    have hall : ∀ m ∈ texts (ls ++ [l]), Braceless m := by
      simpa [or_imp, forall_and] using And.intro hb hl
    exact .statement hall (by simp) he
  · next he =>
    cases hs
    have hall : ∀ m ∈ texts (ls ++ [l]), SelectorLine layout m := by
      simpa [or_imp, forall_and] using And.intro h (SelectorLine.mk hl hat (by simpa using he))
    have hheld := Held.selectors hall
    rw [reverse_texts_concat] at hheld
    exact .held hheld

/-- A line after the header of an at-rule. -/
theorem effect_header {ls : List (List Char × Nat)} {l : List Char × Nat} {c : Option Construct}
    (hb : ∀ m ∈ texts ls, Braceless m) (hat : ∃ m ∈ (texts ls).head?, startsAtRule layout m = true)
    (hs : (Progress.inAtRule (texts ls).reverse 0 false (firstNumber ls)).step layout l = .ok (c, q)) :
    Effect layout (ls ++ [l]) c q := by
  obtain ⟨x, ms, rfl⟩ := List.exists_cons_of_ne_nil (show ls ≠ [] by rintro rfl; simp at hat)
  have hat' : ∃ m ∈ (texts (x :: ms ++ [l])).head?, startsAtRule layout m = true := by
    simpa using hat
  have hn : firstNumber (x :: ms) = firstNumber (x :: ms ++ [l]) := rfl
  rw [step_inAtRule, Bool.false_or, Int.zero_add, hn] at hs
  cases ho : l.1.contains '{' with
  | true =>
    rw [ho] at hs
    have hopens : Opens layout .atRule (texts (x :: ms)) l.1 :=
      .atRule hb (by simpa using hat) (by simpa using ho)
    refine effect_opens (x :: ms) l hopens (n := l.2) (.trans ?_ hs)
    simp [Progress.inBlock]
  | false =>
    rw [ho, settle_inAtRule] at hs
    split at hs
    · cases hs
    · next hd =>
      have hl : Braceless l.1 := braceless_of_delta (by simpa using ho) (by omega)
      have hall : ∀ m ∈ texts (x :: ms ++ [l]), Braceless m := by
        rw [texts_append]
        intro m hm
        exact (List.mem_append.1 hm).elim (hb m) fun hm =>
          by simpa [List.mem_singleton.1 hm] using hl
      rw [hl.delta] at hs
      cases hs
      have hheld := Held.header hall hat'
      rw [reverse_texts_concat] at hheld
      exact .held hheld

/-- One step. Only a line that starts an at-rule leaves selector lines behind without a block. -/
theorem Held.step {ls : List (List Char × Nat)} {l : List Char × Nat} {c : Option Construct}
    (h : Held layout ls p) (hs : p.step layout l = .ok (c, q)) :
    Effect layout (ls ++ [l]) c q ∨
      (∀ m ∈ texts ls, Braceless m) ∧ startsAtRule layout l.1 = true ∧ Effect layout [l] c q := by
  cases h with
  | selectors h =>
    cases hat : startsAtRule layout l.1 with
    | true => exact .inr ⟨fun m hm => (h m hm).braceless, rfl, effect_startsAtRule hat hs⟩
    | false => exact .inl (effect_selectors h hat hs)
  | header hb hat => exact .inl (effect_header hb hat hs)
  | @block kind head m rest e ho hopen =>
    rw [step_inBlock] at hs
    have e' : texts (ls ++ [l]) = head ++ m :: (rest ++ [l.1]) := by simp [e]
    refine .inl (effect_inBlock e' ho (fun m' hm hne => ?_) (n := l.2) (.trans ?_ hs))
    · rcases List.prefix_concat_iff.1 hm with rfl | hm
      · exact absurd rfl hne
      · exact hopen m' hm
    · have hne : ls ≠ [] := by rintro rfl; simp at e
      simp [firstNumber_concat, hne, texts]

/-! ## Cutting a run into segments -/

/-- Consecutive lines of code, and the kind of construct that they make, if they make one. -/
structure Segment where
  lines : List (List Char × Nat)
  kind : Option Construct.Kind

/-- The construct of a segment, if it makes one. -/
def Segment.construct (layout : Layout) (s : Segment) : Option Construct :=
  s.kind.map (constructOf layout · s.lines)

/-- Whether the first line of a segment starts an at-rule block. -/
def Segment.StartsAtRule (layout : Layout) (s : Segment) : Prop :=
  ∃ l ∈ (texts s.lines).head?, startsAtRule layout l = true

/-- Segments one after another, as a run cuts its lines: constructs, statements, selector
lines in front of an at-rule, and at the end what is not complete. -/
inductive Cut (layout : Layout) : List Segment → Prop
  | nil : Cut layout []
  | construct {ls kind ss} : Complete layout kind (texts ls) → Cut layout ss →
      Cut layout (⟨ls, some kind⟩ :: ss)
  | statement {ls ss} {l : List Char} : (∀ m ∈ texts ls, Braceless m) →
      l ∈ (texts ls).getLast? → endsStatement l = true →
      Cut layout ss → Cut layout (⟨ls, none⟩ :: ss)
  | dangling {ls s ss} : ls ≠ [] → (∀ m ∈ texts ls, Braceless m) → s.StartsAtRule layout →
      Cut layout (s :: ss) → Cut layout (⟨ls, none⟩ :: s :: ss)
  | rest {ls p} : ls ≠ [] → Held layout ls p → Cut layout [⟨ls, none⟩]

theorem Cut.ne_nil {ss : List Segment} (h : Cut layout ss) : ∀ s ∈ ss, s.lines ≠ [] := by
  induction h with
  | nil => simp
  | construct hc _ ih => exact List.forall_mem_cons.2 ⟨fun e => hc.ne_nil (congrArg texts e), ih⟩
  | statement _ hl _ _ ih =>
    refine List.forall_mem_cons.2 ⟨fun e => ?_, ih⟩
    rw [show texts _ = [] from congrArg texts e] at hl
    cases hl
  | dangling hne _ _ _ ih => exact List.forall_mem_cons.2 ⟨hne, ih⟩
  | rest hne _ => simpa using hne

/-- In front of every segment the braces balance. -/
theorem Cut.depth_before {before : List Segment} {s : Segment} {after : List Segment}
    (h : Cut layout (before ++ s :: after)) : depth (texts (before.flatMap Segment.lines)) = 0 := by
  induction before with
  | nil => rfl
  | cons b before ih =>
    rw [List.flatMap_cons, texts_append, depth_append]
    cases hrest : before ++ s :: after with
    | nil => simp at hrest
    | cons t ts =>
      rw [List.cons_append, hrest] at h
      rw [hrest] at ih
      cases h with
      | construct hc h => rw [hc.depth_eq, ih h, Int.zero_add]
      | statement hb _ _ h => rw [depth_braceless hb, ih h, Int.zero_add]
      | dangling _ hb _ h => rw [depth_braceless hb, ih h, Int.zero_add]

/-- The lines held and the lines to come are cut into segments, one for each construct that the
run hands back and others that come to nothing. -/
theorem exists_cut {ls ms : List (List Char × Nat)} {cs : List Construct} (h : Held layout ls p)
    (hr : p.run layout ms = .ok (cs, q)) :
    ∃ ss, Cut layout ss ∧ ss.flatMap Segment.lines = ls ++ ms ∧
      cs = ss.filterMap (Segment.construct layout) := by
  -- on the lines to come; `ls` are the ones read since the last cut
  induction ms generalizing ls p cs with
  | nil =>
    obtain ⟨rfl, rfl⟩ : [] = cs ∧ p = q := by simpa [Progress.run] using hr
    rcases eq_or_ne ls [] with rfl | hne
    · exact ⟨[], .nil, rfl, rfl⟩
    · exact ⟨[⟨ls, none⟩], .rest hne h, by simp, rfl⟩
  | cons l ms ih =>
    obtain ⟨c, p', ds, hs, hrest, rfl⟩ := run_cons_eq_ok.1 hr
    -- the lines that the step takes part in, with what it does to them, and the lines to come
    have after : ∀ {xs}, Effect layout xs c p' → xs ≠ [] →
        ∃ ss, Cut layout ss ∧ ss.flatMap Segment.lines = xs ++ ms ∧
          c.toList ++ ds = ss.filterMap (Segment.construct layout) := by
      intro xs he hne
      cases he with
      | held h => exact ih h hrest
      | completes hc =>
        obtain ⟨ss, hcut, hl, rfl⟩ := ih held_none hrest
        exact ⟨⟨xs, some _⟩ :: ss, .construct hc hcut, by simpa using hl, rfl⟩
      | statement hb hl he =>
        obtain ⟨ss, hcut, hf, rfl⟩ := ih held_none hrest
        exact ⟨⟨xs, none⟩ :: ss, .statement hb hl he hcut, by simpa using hf, rfl⟩
    rcases h.step hs with he | ⟨hb, hat, he⟩
    · simpa using after he (by simp)
    · obtain ⟨ss, hcut, hl, e⟩ := after he (by simp)
      rcases eq_or_ne ls [] with rfl | hne
      · exact ⟨ss, hcut, hl, e⟩
      cases ss with
      | nil => simp at hl
      | cons s ss =>
        have hfirst : s.StartsAtRule layout := by
          obtain ⟨x, xs, hx⟩ := List.exists_cons_of_ne_nil (hcut.ne_nil s List.mem_cons_self)
          rw [List.flatMap_cons, hx, List.cons_append, List.singleton_append, List.cons.injEq] at hl
          exact ⟨l.1, by rw [hx, hl.1]; rfl, hat⟩
        exact ⟨⟨ls, none⟩ :: s :: ss, .dangling hne hb hfirst hcut, by simpa using hl, e⟩

theorem Cut.complete {ss : List Segment} (h : Cut layout ss) :
    ∀ s ∈ ss, ∀ k ∈ s.kind, Complete layout k (texts s.lines) := by
  induction h with
  | nil => simp
  | construct hc _ ih =>
    refine List.forall_mem_cons.2 ⟨fun k hk => ?_, ih⟩
    cases hk
    exact hc
  | statement _ _ _ _ ih => exact List.forall_mem_cons.2 ⟨nofun, ih⟩
  | dangling _ _ _ _ ih => exact List.forall_mem_cons.2 ⟨nofun, ih⟩
  | rest _ _ => simp

/-- The constructs of a scan by their lines, which stand among the text's lines of code in order. -/
theorem scan_constructs {css : List Char} {cs : List Construct} (h : scan layout css = .ok cs) :
    ∃ xs : List (Construct.Kind × List (List Char)), (∀ x ∈ xs, Complete layout x.1 x.2) ∧
      cs.map Construct.view = (xs.map fun x => (x.1, joinWith layout.separator x.2)) ∧
      (xs.flatMap Prod.snd).Sublist (texts (codeLines layout css)) := by
  obtain ⟨q, hq⟩ := scan_eq_ok_iff.1 h
  obtain ⟨ss, hcut, hl, rfl⟩ := exists_cut held_none hq
  refine ⟨ss.filterMap fun s => s.kind.map (·, texts s.lines), ?_, ?_, ?_⟩
  · intro x hx
    obtain ⟨s, hs, hx⟩ := List.mem_filterMap.1 hx
    obtain ⟨k, hk, rfl⟩ := Option.map_eq_some_iff.1 hx
    exact hcut.complete s hs k hk
  · rw [List.map_filterMap, List.map_filterMap]
    apply List.filterMap_congr
    intro s _
    simp only [Segment.construct, Option.map_map]
    rfl
  · rw [List.nil_append] at hl
    rw [← hl]
    clear hl hcut hq h
    induction ss with
    | nil => exact List.Sublist.refl _
    | cons s ss ih =>
      rw [List.flatMap_cons, texts_append, List.filterMap_cons]
      cases s.kind with
      | none => exact ih.trans (List.sublist_append_right _ _)
      | some k => exact ih.append_left _

/-- A construct of a scan by its lines: consecutive lines of code, with balanced braces in front. -/
theorem exists_lines {css : List Char} {cs : List Construct} (h : scan layout css = .ok cs)
    {c : Construct} (hc : c ∈ cs) :
    ∃ before ls after, texts (codeLines layout css) = before ++ (ls ++ after) ∧ depth before = 0 ∧
      Complete layout c.kind ls ∧ c.text = joinWith layout.separator ls := by
  obtain ⟨q, hq⟩ := scan_eq_ok_iff.1 h
  obtain ⟨ss, hcut, hl, rfl⟩ := exists_cut held_none hq
  obtain ⟨s, hs, hc⟩ := List.mem_filterMap.1 hc
  obtain ⟨kind, hk, rfl⟩ := Option.map_eq_some_iff.1 hc
  have hcomplete := hcut.complete s hs kind hk
  obtain ⟨before, after, rfl⟩ := List.append_of_mem hs
  refine ⟨texts (before.flatMap Segment.lines), texts s.lines, texts (after.flatMap Segment.lines), ?_,
    hcut.depth_before, hcomplete, rfl⟩
  rw [← texts_append, ← texts_append, ← List.flatMap_cons, ← List.flatMap_append, hl, List.nil_append]

/-- Where no line starts an at-rule, as none does in a body, all constructs are rules. -/
theorem kind_of_scan {css : List Char} {cs : List Construct}
    (hat : ∀ l ∈ texts (codeLines layout css), startsAtRule layout l = false)
    (h : scan layout css = .ok cs) : ∀ c ∈ cs, c.kind = .rule := by
  intro c hc
  obtain ⟨before, ls, after, hcode, -, hcomplete, -⟩ := exists_lines h hc
  cases hk : c.kind with
  | rule => rfl
  | atRule =>
    obtain ⟨l, hl, hstarts⟩ := hcomplete.kind_iff.1 hk
    have hmem : l ∈ texts (codeLines layout css) := by
      rw [hcode]
      simp [List.mem_of_mem_head? hl]
    rw [hat l hmem] at hstarts
    cases hstarts

/-- A construct has no comment opener where the code has none. -/
theorem occurs_construct {css : List Char} {cs : List Construct} (h : scan layout css = .ok cs)
    (hc : ∀ l ∈ stripLines false (lines css), occurs commentOpen l = false) :
    ∀ c ∈ cs, occurs commentOpen c.text = false := by
  intro c hmem
  obtain ⟨before, ls, after, hcode, -, -, e⟩ := exists_lines h hmem
  have hsep : layout.separator ≠ [] := by cases layout <;> simp [Layout.separator]
  rw [e]
  refine not_occurs_joinWith rfl hsep (isBlankText_separator layout) fun l hl => ?_
  have hl : l ∈ texts (codeLines layout css) := by
    rw [hcode]
    simp [hl]
  obtain ⟨m, hm, -, -, rfl⟩ := mem_codeLines hl
  cases layout with
  | sheet => exact hc m hm
  | body => exact occurs_part (trim_isInfix m) (hc m hm)

/-! ## The segments of a scan -/

/-- Why a segment makes no construct. Either it has no braces, and ends as a statement or in
front of an at-rule or with the text; or the text ends before the block of the segment does. -/
def Segment.Skipped (layout : Layout) (s : Segment) (after : List Segment) : Prop :=
  (∀ l ∈ texts s.lines, Braceless l) ∧
      ((∃ l ∈ (texts s.lines).getLast?, endsStatement l = true) ∨
        (∃ t ts, after = t :: ts ∧ t.StartsAtRule layout) ∨ after = []) ∨
    after = [] ∧ (0 < depth (texts s.lines) ∨ s.StartsAtRule layout ∧ ∀ l ∈ texts s.lines, '{' ∉ l)

/-- A text's lines of code, cut into segments that account for the constructs of a scan. -/
structure Segmentation (layout : Layout) (css : List Char) (cs : List Construct)
    (ss : List Segment) : Prop where
  lines : ss.flatMap Segment.lines = codeLines layout css
  constructs : cs = ss.filterMap (Segment.construct layout)
  filled : ∀ s ∈ ss, s.lines ≠ []
  kind : ∀ s ∈ ss, ∀ k ∈ s.kind, (k = .atRule ↔ s.StartsAtRule layout)
  balanced : ∀ s ∈ ss, s.kind ≠ none → Balanced (texts s.lines)
  skipped : ∀ before s after, ss = before ++ s :: after → s.kind = none → s.Skipped layout after

/-- What is held at the end of a text comes to nothing. -/
theorem Held.skipped {ls : List (List Char × Nat)} {kind : Option Construct.Kind}
    (h : Held layout ls p) :
    Segment.Skipped layout ⟨ls, kind⟩ [] := by
  cases h with
  | selectors h => exact .inl ⟨fun l hl => (h l hl).braceless, .inr (.inr rfl)⟩
  | header hb hat => exact .inr ⟨rfl, .inr ⟨hat, fun l hl => (hb l hl).1⟩⟩
  | block e ho hopen =>
    have := hopen _ List.prefix_rfl
    refine .inr ⟨rfl, .inl ?_⟩
    rw [e, depth_append, depth_cons, depth_braceless ho.braceless]
    omega

theorem Cut.skipped {before : List Segment} {s : Segment} {after : List Segment}
    (h : Cut layout (before ++ s :: after)) (hs : s.kind = none) : s.Skipped layout after := by
  induction before with
  | nil =>
    cases h with
    | construct _ _ => cases hs
    | statement hb hl he _ => exact .inl ⟨hb, .inl ⟨_, hl, he⟩⟩
    | dangling _ hb hat _ => exact .inl ⟨hb, .inr (.inl ⟨_, _, rfl, hat⟩)⟩
    | rest _ hheld => exact hheld.skipped
  | cons b before ih =>
    cases hrest : before ++ s :: after with
    | nil => simp at hrest
    | cons t ts =>
      rw [List.cons_append, hrest] at h
      rw [hrest] at ih
      cases h with
      | construct _ h => exact ih h
      | statement _ _ _ h => exact ih h
      | dangling _ _ _ h => exact ih h

/-- A scan that succeeds cuts the lines of code of its text into segments: those with balanced
braces are the constructs, in order and one for one, and every other one is accounted for. -/
theorem scan_segmentation {css : List Char} {cs : List Construct} (h : scan layout css = .ok cs) :
    ∃ ss, Segmentation layout css cs ss := by
  obtain ⟨q, hq⟩ := scan_eq_ok_iff.1 h
  obtain ⟨ss, hcut, hl, hcs⟩ := exists_cut held_none hq
  refine ⟨ss, hl, hcs, hcut.ne_nil, ?_, ?_, ?_⟩
  · intro s hs k hk
    exact (hcut.complete s hs k hk).kind_iff
  · intro s hs hk
    obtain ⟨k, hk⟩ := Option.ne_none_iff_exists'.1 hk
    exact (hcut.complete s hs k hk).balanced
  · rintro before s after rfl hk
    exact hcut.skipped hk

/-- A statement, a rule on two lines, a media block and an unterminated rule. -/
theorem scan_segmentation_mixed :
    scan .sheet "@import x;\n.a\n\x7b y: z; \x7d\n@media p \x7b\n\x7d\n.b \x7b".toList =
        .ok [⟨.rule, ".a\n\x7b y: z; \x7d".toList, 2⟩, ⟨.atRule, "@media p \x7b\n\x7d".toList, 4⟩] ∧
      ∃ ss, Segmentation .sheet "@import x;\n.a\n\x7b y: z; \x7d\n@media p \x7b\n\x7d\n.b \x7b".toList
        [⟨.rule, ".a\n\x7b y: z; \x7d".toList, 2⟩, ⟨.atRule, "@media p \x7b\n\x7d".toList, 4⟩] ss :=
  ⟨by rfl, scan_segmentation (by rfl)⟩

end UsedCss.Css
