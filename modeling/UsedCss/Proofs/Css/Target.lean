import UsedCss.Proofs.ClassSet
import UsedCss.Proofs.Css.Compare
/-!
# What the target set decides

The target set has no part in the scans, so filtering fails for every set or for none. All that it
decides is which rules are included, and that only by the names that the rules mention: more names
include more rules, and the union of two sets includes what either of them does.
-/

namespace UsedCss.Css

open UsedCss.Text

variable {S T target : ClassSet} {rule css : List Char} {c : Construct} {cs ds : List Construct}
  {options : FilterOptions}

/-! ## Mentioned names -/

theorem mentions_eq_true_iff {cs : List Char} :
    mentions target cs = true ↔ ∃ n ∈ classNames cs, target.contains (String.ofList n) = true := by
  simp [mentions]

theorem mentions_union (S T : ClassSet) (cs : List Char) :
    mentions (S.union T) cs = (mentions S cs || mentions T cs) := by
  rw [Bool.eq_iff_iff, Bool.or_eq_true]
  simp only [mentions_eq_true_iff, ClassSet.contains_union, Bool.or_eq_true, and_or_left, exists_or]

theorem mentions_mono (hST : ∀ n, S.contains n = true → T.contains n = true) {cs : List Char}
    (h : mentions S cs = true) : mentions T cs = true := by
  rw [mentions_eq_true_iff] at h ⊢
  obtain ⟨n, hn, hS⟩ := h
  exact ⟨n, hn, hST _ hS⟩

theorem mentions_congr {cs : List Char}
    (h : ∀ n ∈ classNames cs, S.contains (String.ofList n) = T.contains (String.ofList n)) :
    mentions S cs = mentions T cs := by
  rw [Bool.eq_iff_iff, mentions_eq_true_iff, mentions_eq_true_iff]
  exact exists_congr fun n => and_congr_right fun hn => by rw [h n hn]

/-- The names in front of the first brace are names of the rule. -/
theorem classNames_selector (rule : List Char) :
    classNames (rule.takeWhile (· != '{')) ⊆ classNames rule := by
  by_cases h : '{' ∈ rule
  · obtain ⟨a, b, rfl, ha⟩ := List.eq_append_cons_of_mem h
    rw [takeWhile_append_cons ha, classNames_append_cons (by decide) (by decide)]
    exact List.subset_append_left _ _
  · rw [List.takeWhile_eq_self_iff.2 fun c hc => by simpa using ne_of_mem_of_not_mem hc h]
    exact List.Subset.refl _

/-! ## Included rules -/

theorem isIncluded_union (S T : ClassSet) (rule : List Char) :
    isIncluded rule (S.union T) = (isIncluded rule S || isIncluded rule T) := by
  rw [isIncluded_eq, isIncluded_eq, isIncluded_eq, mentions_union]
  cases occurs "@keyframes".toList rule || occurs "@font-face".toList rule with
  | true => rfl
  | false => exact Bool.and_or_distrib_left ..

theorem isIncluded_mono (hST : ∀ n, S.contains n = true → T.contains n = true)
    (h : isIncluded rule S = true) : isIncluded rule T = true := by
  rw [isIncluded_eq, Bool.or_eq_true, Bool.and_eq_true] at h ⊢
  exact h.imp_right (And.imp_right (mentions_mono hST))

theorem isIncluded_congr
    (h : ∀ n ∈ classNames rule, S.contains (String.ofList n) = T.contains (String.ofList n)) :
    isIncluded rule S = isIncluded rule T := by
  rw [isIncluded_eq, isIncluded_eq, mentions_congr fun n hn => h n (classNames_selector rule hn)]

theorem mem_includedRules {t : List Char} :
    t ∈ includedRules target ds ↔
      ∃ d ∈ ds, d.kind = .rule ∧ isIncluded d.text target = true ∧ d.text = t := by
  simp [includedRules, and_assoc]

theorem mem_includedRules_union {t : List Char} :
    t ∈ includedRules (S.union T) ds ↔ t ∈ includedRules S ds ∨ t ∈ includedRules T ds := by
  simp only [mem_includedRules, isIncluded_union, Bool.or_eq_true, or_and_right, and_or_left,
    exists_or]

theorem includedRules_sublist (hST : ∀ n, S.contains n = true → T.contains n = true)
    (ds : List Construct) : (includedRules S ds).Sublist (includedRules T ds) := by
  refine (List.monotone_filter_right ds fun d hd => ?_).map _
  rw [Bool.and_eq_true] at hd ⊢
  exact hd.imp_right (isIncluded_mono hST)

theorem includedRules_congr (h : ∀ d ∈ ds, ∀ n ∈ classNames d.text,
      S.contains (String.ofList n) = T.contains (String.ofList n)) :
    includedRules S ds = includedRules T ds := by
  rw [includedRules, List.filter_congr fun d hd => by rw [isIncluded_congr (h d hd)]]
  rfl

/-! ## Results for two sets -/

/-- What a block leaves around its included rules. -/
def rebuild (header : List Char) (rules : List (List Char)) : Option (List Char) :=
  if rules = [] then none else some (renderBlock header rules)

/-- What is left of a construct for two sets compares as what is left of a rule and of a block. -/
theorem paired_prune {R : Option (List Char) → Option (List Char) → Prop} (hrefl : ∀ r, R r r)
    (hrule : c.kind = .rule → R (if isIncluded c.text S then some c.text else none)
      (if isIncluded c.text T then some c.text else none))
    (hblock : ∀ block ds, c.kind = .atRule → isKeyframesHeader (trimStart c.text) = false →
      MediaBlock.ofText? c.text = some block → scan .body block.body = .ok ds →
      R (rebuild block.header (includedRules S ds)) (rebuild block.header (includedRules T ds))) :
    Paired Eq R (prune S c) (prune T c) := by
  cases hkind : c.kind with
  | rule =>
    rw [prune_rule hkind, prune_rule hkind]
    exact .ok (hrule hkind)
  | atRule =>
    rw [prune_atRule hkind, prune_atRule hkind]
    refine Paired.mapError (E := Eq) ?_ fun _ _ _ => rfl
    cases hk : isKeyframesHeader (trimStart c.text) with
    | true =>
      rw [pruneBlock_keyframes hk, pruneBlock_keyframes hk]
      exact .ok (hrefl _)
    | false =>
      cases hb : MediaBlock.ofText? c.text with
      | none =>
        rw [pruneBlock_none hk hb, pruneBlock_none hk hb]
        exact .ok (hrefl _)
      | some block =>
        rw [pruneBlock_eq hk hb, pruneBlock_eq hk hb]
        cases hs : scan .body block.body with
        | error e => exact .error rfl -- the set has no part in the inner scan either
        | ok ds => exact .ok (hblock block ds hkind hk hb hs)

/-- So filtering for two sets compares by what is left of the constructs. -/
theorem paired_filter {Q : List (List Char) → List (List Char) → Prop}
    (hv : options.verify = false) (hnil : Q [] [])
    (happend : ∀ us us' vs vs', Q us us' → Q vs vs' → Q (us ++ vs) (us' ++ vs'))
    (h : ∀ cs, scan .sheet css = .ok cs → ∀ c ∈ cs,
      Paired Eq (fun r r' => Q r.toList r'.toList) (prune S c) (prune T c)) :
    Paired Eq (fun o o' => ∃ us us', Q us us' ∧ o = renderSheet us ∧ o' = renderSheet us')
      (filter css S options) (filter css T options) := by
  rw [filter_of_not_verify hv, filter_of_not_verify hv]
  cases options.maxBytes.brokenBy (byteSize css) with
  | some limit => exact .error rfl
  | none =>
    simp only [filter_eq]
    cases hs : scan .sheet css with
    | error e => exact .error rfl
    | ok cs =>
      exact (paired_pruneAll hnil happend (List.forall₂_same.2 (h cs hs))).map
        fun us us' hu => ⟨us, us', hu, rfl, rfl⟩

/-- More names leave more lines of a construct. -/
theorem paired_prune_mono (hST : ∀ n, S.contains n = true → T.contains n = true) (c : Construct) :
    Paired Eq (fun r r' => (r.toList.flatMap trimmedLines).Sublist (r'.toList.flatMap trimmedLines))
      (prune S c) (prune T c) := by
  refine paired_prune (fun _ => List.Sublist.refl _) (fun _ => ?_) fun block ds _ _ _ _ => ?_
  · cases hS : isIncluded c.text S with
    | false => exact List.nil_sublist _
    | true =>
      rw [isIncluded_mono hST hS]
  · -- a block may appear as a whole, but none disappears
    have hsub := includedRules_sublist hST ds
    by_cases hS : includedRules S ds = []
    · rw [rebuild, if_pos hS]
      exact List.nil_sublist _
    · have hT : includedRules T ds ≠ [] := fun hT => hS (List.sublist_nil.1 (hT ▸ hsub))
      rw [rebuild, rebuild, if_neg hS, if_neg hT]
      simp only [Option.toList_some, List.flatMap_singleton, trimmedLines_renderBlock]
      exact ((hsub.flatMap trimmedLines).append_right _).append_left _

/-- Sets that agree on the names of its rules leave the same of a construct. -/
theorem paired_prune_congr
    (hrule : ∀ n ∈ classNames c.text, S.contains (String.ofList n) = T.contains (String.ofList n))
    (hinner : ∀ block ds, c.kind = .atRule → isKeyframesHeader (trimStart c.text) = false →
      MediaBlock.ofText? c.text = some block → scan .body block.body = .ok ds →
      ∀ d ∈ ds, ∀ n ∈ classNames d.text,
        S.contains (String.ofList n) = T.contains (String.ofList n)) :
    Paired Eq Eq (prune S c) (prune T c) := by
  refine paired_prune (fun _ => rfl) (fun _ => ?_) fun block ds hat hk hb hs => ?_
  · rw [isIncluded_congr hrule]
  · rw [includedRules_congr (hinner block ds hat hk hb hs)]

/-! ## Survival -/

/-- Whether anything is left of a construct. A rule is left as it stands, if it is left. -/
def Survives (target : ClassSet) (c : Construct) : Prop := ∃ t, prune target c = .ok (some t)

theorem survives_rule_iff (h : c.kind = .rule) :
    Survives target c ↔ isIncluded c.text target = true := by
  rw [Survives, prune_rule h]
  cases isIncluded c.text target <;> simp

/-- A keyframes block survives, and any other block if one of its rules is included. -/
theorem survives_atRule_iff (h : c.kind = .atRule) :
    Survives target c ↔ isKeyframesHeader (trimStart c.text) = true ∨
      isKeyframesHeader (trimStart c.text) = false ∧ ∃ block ds, MediaBlock.ofText? c.text = some block ∧
        scan .body block.body = .ok ds ∧ includedRules target ds ≠ [] := by
  have hprune : Survives target c ↔ ∃ t, pruneBlock c.text target = .ok (some t) := by
    simp [Survives, prune_eq_ok_iff, h]
  rw [hprune]
  constructor
  · rintro ⟨t, ht⟩
    rcases pruneBlock_eq_some ht with ⟨hk, -⟩ | ⟨hk, block, ds, hb, hs, hne, -⟩
    · exact .inl hk
    · exact .inr ⟨hk, block, ds, hb, hs, hne⟩
  · rintro (hk | ⟨hk, block, ds, hb, hs, hne⟩)
    · exact ⟨_, pruneBlock_keyframes hk⟩
    · rw [pruneBlock_eq hk hb, hs]
      exact ⟨_, congrArg Except.ok (if_neg hne)⟩

theorem includedRules_union_ne_nil :
    includedRules (S.union T) ds ≠ [] ↔ includedRules S ds ≠ [] ∨ includedRules T ds ≠ [] := by
  simp only [ne_eq, List.eq_nil_iff_forall_not_mem, not_forall, not_not, mem_includedRules_union,
    exists_or]

theorem survives_union (S T : ClassSet) (c : Construct) :
    Survives (S.union T) c ↔ Survives S c ∨ Survives T c := by
  cases h : c.kind with
  | rule => rw [survives_rule_iff h, survives_rule_iff h, survives_rule_iff h, isIncluded_union,
      Bool.or_eq_true]
  | atRule =>
    simp only [survives_atRule_iff h, includedRules_union_ne_nil, and_or_left, exists_or]
    exact or_or_distrib_left

/-! ## The whole -/

/-- The texts that inclusion is about: those of the constructs of a sheet, and those of the rules
that the scan of a media block finds. -/
inductive Judged (css : List Char) : List Char → Prop
  | outer {cs : List Construct} {c : Construct} : scan .sheet css = .ok cs → c ∈ cs → Judged css c.text
  | inner {cs ds : List Construct} {c d : Construct} {block : MediaBlock} :
      scan .sheet css = .ok cs → c ∈ cs → c.kind = .atRule →
      isKeyframesHeader (trimStart c.text) = false → MediaBlock.ofText? c.text = some block →
      scan .body block.body = .ok ds → d ∈ ds → Judged css d.text

/-- Without verification, whether and how filtering fails does not depend on the target set. More
names add lines to the output and take none away, only the names in the scanned texts count, and a
construct, or a rule of a media block, is kept for the union of two sets if and only if it is kept
for one of them. -/
theorem filter_target (hv : options.verify = false) (css : List Char) (S T : ClassSet) :
    (∀ e, filter css S options = .error e ↔ filter css T options = .error e) ∧
    ((∀ n, S.contains n = true → T.contains n = true) →
      ∀ o, filter css S options = .ok o →
        ∃ o', filter css T options = .ok o' ∧ (trimmedLines o).Sublist (trimmedLines o')) ∧
    ((∀ t, Judged css t → ∀ n ∈ classNames t,
        S.contains (String.ofList n) = T.contains (String.ofList n)) →
      filter css S options = filter css T options) ∧
    ∀ cs, scan .sheet css = .ok cs → ∀ c ∈ cs,
      (Survives (S.union T) c ↔ Survives S c ∨ Survives T c) ∧
      ∀ block ds, MediaBlock.ofText? c.text = some block → scan .body block.body = .ok ds →
        ∀ d ∈ ds, (d.text ∈ includedRules (S.union T) ds ↔
          d.text ∈ includedRules S ds ∨ d.text ∈ includedRules T ds) := by
  refine ⟨?_, fun hST o ho => ?_, fun hall => ?_, fun cs _ c _ => ⟨survives_union S T c,
    fun _ _ _ _ _ _ => mem_includedRules_union⟩⟩
  · exact (paired_filter (Q := fun _ _ => True) hv trivial (fun _ _ _ _ _ _ => trivial)
      fun cs _ c _ => paired_prune (fun _ => trivial) (fun _ => trivial)
        fun _ _ _ _ _ _ => trivial).error_iff
  · obtain ⟨o', ho', us, us', hu, rfl, rfl⟩ := (paired_filter
      (Q := fun us us' => (us.flatMap trimmedLines).Sublist (us'.flatMap trimmedLines)) hv
      (List.Sublist.refl _) (fun us us' vs vs' hu hv => by
        simpa only [List.flatMap_append] using hu.append hv)
      fun cs _ c _ => paired_prune_mono hST c).of_ok ho
    refine ⟨_, ho', ?_⟩
    rw [trimmedLines_renderSheet, trimmedLines_renderSheet]
    exact hu
  · refine Paired.eq ((paired_filter (Q := Eq) hv rfl (fun us us' vs vs' hu hv => by rw [hu, hv])
      fun cs hs c hc => ?_).mono (fun _ _ he => he) ?_)
    · refine (paired_prune_congr (hall _ (.outer hs hc)) fun block ds hat hk hb hs' d hd =>
        hall _ (.inner hs hc hat hk hb hs' hd)).mono (fun _ _ he => he) ?_
      rintro r _ rfl
      rfl
    · rintro o o' ⟨us, us', rfl, rfl, rfl⟩
      rfl

/-- A media block that loses one of its rules for the smaller set. A name that nothing mentions
changes nothing. -/
theorem filter_target_media :
    filter "@media p \x7b .a \x7b x \x7d\n.b \x7b y \x7d \x7d".toList (ClassSet.ofList ["a"]) =
        .ok "@media p \x7b\n    .a \x7b x \x7d\n\x7d".toList ∧
      filter "@media p \x7b .a \x7b x \x7d\n.b \x7b y \x7d \x7d".toList (ClassSet.ofList ["a", "b"]) =
        .ok "@media p \x7b\n    .a \x7b x \x7d\n\n    .b \x7b y \x7d\n\x7d".toList ∧
      (trimmedLines "@media p \x7b\n    .a \x7b x \x7d\n\x7d".toList).Sublist
        (trimmedLines "@media p \x7b\n    .a \x7b x \x7d\n\n    .b \x7b y \x7d\n\x7d".toList) ∧
      filter "@media p \x7b .a \x7b x \x7d\n.b \x7b y \x7d \x7d".toList (ClassSet.ofList ["a"]) =
        filter "@media p \x7b .a \x7b x \x7d\n.b \x7b y \x7d \x7d".toList (ClassSet.ofList ["a", "z"]) := by
  have hscan : scan .sheet "@media p \x7b .a \x7b x \x7d\n.b \x7b y \x7d \x7d".toList =
      .ok [⟨.atRule, "@media p \x7b .a \x7b x \x7d\n.b \x7b y \x7d \x7d".toList, 1⟩] := by decide +kernel
  have hblock : MediaBlock.ofText? "@media p \x7b .a \x7b x \x7d\n.b \x7b y \x7d \x7d".toList =
      some ⟨"@media p".toList, ".a \x7b x \x7d\n.b \x7b y \x7d".toList⟩ := by decide +kernel
  have hbody : scan .body ".a \x7b x \x7d\n.b \x7b y \x7d".toList =
      .ok [⟨.rule, ".a \x7b x \x7d".toList, 1⟩, ⟨.rule, ".b \x7b y \x7d".toList, 2⟩] := by decide +kernel
  have hS : filter "@media p \x7b .a \x7b x \x7d\n.b \x7b y \x7d \x7d".toList (ClassSet.ofList ["a"]) =
      .ok "@media p \x7b\n    .a \x7b x \x7d\n\x7d".toList := by decide +kernel
  have hT : filter "@media p \x7b .a \x7b x \x7d\n.b \x7b y \x7d \x7d".toList (ClassSet.ofList ["a", "b"]) =
      .ok "@media p \x7b\n    .a \x7b x \x7d\n\n    .b \x7b y \x7d\n\x7d".toList := by decide +kernel
  refine ⟨hS, hT, ?_, ?_⟩
  · have hsub : ∀ n, (ClassSet.ofList ["a"]).contains n = true →
        (ClassSet.ofList ["a", "b"]).contains n = true := by
      simp +contextual [ClassSet.ofList]
    obtain ⟨o', ho', hlines⟩ := (@filter_target {} rfl _ _ _).2.1 hsub _ hS
    cases hT.symm.trans ho'
    exact hlines
  · refine (@filter_target {} rfl _ _ _).2.2.1 fun t ht => ?_
    rcases ht with ⟨hs, hc⟩ | ⟨hs, hc, -, -, hb, hs', hd⟩
    · cases hscan.symm.trans hs
      obtain rfl := List.mem_singleton.1 hc
      decide +kernel
    · cases hscan.symm.trans hs
      obtain rfl := List.mem_singleton.1 hc
      cases hblock.symm.trans hb
      cases hbody.symm.trans hs'
      rcases List.mem_pair.1 hd with rfl | rfl <;> decide +kernel

end UsedCss.Css
