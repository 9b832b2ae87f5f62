import UsedCss.Proofs.Css.Compare
import UsedCss.Proofs.Css.RoundTrip
/-!
# Rules that share a line

A rule with a line of its own is kept if its selector mentions a class of the target set. Rules that
share a line are taken for one rule: the selector of the first decides for all of them, and they go or
stay together.
-/

namespace UsedCss.Css

open UsedCss.Text

variable {target : ClassSet} {l : List Char}

/-! ## Lines that are rules -/

/-- A line that is taken for a rule. -/
structure RuleLine (l : List Char) : Prop where
  oneLine : '\n' ∉ l
  noAt : '@' ∉ l
  plain : Plain l
  brace : '{' ∈ l
  balanced : braceDelta l = 0

namespace RuleLine

theorem filled (h : RuleLine l) : isBlankText l = false := by
  rw [Bool.eq_false_iff]
  exact fun hb => not_mem_of_blank (c := '{') (by decide) hb h.brace

theorem startsAtRule (h : RuleLine l) : startsAtRule .sheet l = false := by
  have hno : ∀ {needle}, '@' ∈ needle → ¬ needle <+: trimStart l := fun hmem hstart =>
    h.noAt ((trimStart_isSuffix l).mem (hstart.mem hmem))
  rw [Bool.eq_false_iff, Css.startsAtRule]
  intro hat
  rcases isBlockAtRule_iff.1 (by simpa using hat) with hmedia | hkeyframes
  · exact hno (by decide) hmedia
  · rcases isKeyframesHeader_iff.1 hkeyframes with hstart | ⟨v, -, hstart⟩
    · exact hno (by decide) hstart
    · exact hno (by simp) hstart

theorem complete (h : RuleLine l) : Complete .sheet .rule [l] :=
  ⟨[], l, [], rfl, .rule (by simp) h.startsAtRule h.brace, closes_nil.2 h.balanced⟩

/-- What stands in front of the first brace decides. -/
theorem isIncluded_eq (h : RuleLine l) :
    isIncluded l target = mentions target (l.takeWhile (· != '{')) := by
  have hno : ∀ {needle}, '@' ∈ needle → occurs needle l = false := fun hmem =>
    occurs_eq_false_iff.2 fun hpart => h.noAt (hpart.mem hmem)
  have hbrace : l.contains '{' = true := List.contains_iff_mem.2 h.brace
  rw [Css.isIncluded_eq, hno (by decide), hno (by decide), hbrace]
  rfl

end RuleLine

theorem pruneAll_rules {cs : List Construct} {ts : List (List Char)}
    (h : cs.map Construct.view = ts.map fun t => (.rule, t)) :
    pruneAll target cs = .ok (ts.filter (isIncluded · target)) := by
  induction ts generalizing cs with
  | nil =>
    obtain rfl : cs = [] := List.map_eq_nil_iff.1 h
    rfl
  | cons t ts ih =>
    obtain ⟨c, cs, rfl, hc, hcs⟩ := List.map_eq_cons_iff.1 h
    obtain ⟨hkind, rfl⟩ := Prod.mk.inj hc
    refine pruneAll_cons_eq_ok_iff.2 ⟨_, _, prune_rule hkind, ih hcs, ?_⟩
    rw [List.filter_cons]
    split <;> rfl

/-- Lines that are rules are filtered one by one. -/
theorem filter_ruleLines {ls : List (List Char)} (h : ∀ l ∈ ls, RuleLine l) (target : ClassSet) :
    filter (joinWith ['\n'] ls) target { maxBytes := none } =
      .ok (renderSheet (ls.filter (isIncluded · target))) := by
  have hlines : filledLines (joinWith ['\n'] ls) = ls := by
    rw [filledLines_joinWith, flatMap_filledLines fun l hl => (h l hl).oneLine,
      filled_eq_self fun l hl => (h l hl).filled]
  have hcode : texts (codeLines .sheet (joinWith ['\n'] ls)) =
      (ls.map fun l => (Construct.Kind.rule, [l])).flatMap Prod.snd := by
    rw [texts_codeLines_of_plain (by rw [hlines]; exact fun l hl => (h l hl).plain), hlines,
      List.flatMap_map]
    exact (List.flatMap_singleton' ls).symm
  obtain ⟨cs, hrun, hview⟩ :=
    run_constructs (List.forall_mem_map.2 fun l hl => (h l hl).complete) hcode
  refine filter_eq_ok_iff_pruneAll.2 ⟨cs, _, scan_eq_ok_iff.2 ⟨_, hrun⟩, pruneAll_rules ?_, rfl⟩
  rw [hview, List.map_map]
  exact List.map_congr_left fun l _ => by simp

/-! ## Rules on one line each -/

/-- What may stand in a rule that is written on one line. -/
structure InlineText (cs : List Char) : Prop where
  braceless : Braceless cs
  oneLine : '\n' ∉ cs
  noAt : '@' ∉ cs
  noComment : occurs commentOpen cs = false

instance (cs : List Char) : Decidable (InlineText cs) :=
  decidable_of_iff (Braceless cs ∧ '\n' ∉ cs ∧ '@' ∉ cs ∧ occurs commentOpen cs = false)
    ⟨fun ⟨hb, hn, ha, hc⟩ => ⟨hb, hn, ha, hc⟩, fun ⟨hb, hn, ha, hc⟩ => ⟨hb, hn, ha, hc⟩⟩

/-- A style rule on one line: its selector list, a brace, its declarations and the closing brace. -/
structure InlineRule where
  selector : List Char
  declarations : List Char
  inlineSelector : InlineText selector
  inlineDeclarations : InlineText declarations

namespace InlineRule

/-- The line. -/
def text (r : InlineRule) : List Char := r.selector ++ '{' :: (r.declarations ++ ['}'])

/-- Whether the rule's own selector list mentions a class of the target set. -/
def selects (target : ClassSet) (r : InlineRule) : Bool := mentions target r.selector

theorem text_eq_concat (r : InlineRule) : r.text = (r.selector ++ '{' :: r.declarations) ++ ['}'] := by
  simp [text]

theorem not_mem_text (r : InlineRule) {c : Char} (hs : c ∉ r.selector) (hd : c ∉ r.declarations)
    (ho : c ≠ '{') (hc : c ≠ '}') : c ∉ r.text := by
  simp [text, hs, hd, ho, hc]

theorem ruleLine (r : InlineRule) : RuleLine r.text where
  oneLine := r.not_mem_text r.inlineSelector.oneLine r.inlineDeclarations.oneLine (by decide) (by decide)
  noAt := r.not_mem_text r.inlineSelector.noAt r.inlineDeclarations.noAt (by decide) (by decide)
  plain := by
    refine ⟨?_, by rw [text_eq_concat, List.getLast?_concat]; decide⟩
    rw [text, occurs_append_cons (by decide), occurs_append_cons (by decide), r.inlineSelector.noComment,
      r.inlineDeclarations.noComment]
    rfl
  brace := by simp [text]
  balanced := by
    have hopen : r.text = r.selector ++ (['{'] ++ (r.declarations ++ ['}'])) := rfl
    rw [hopen, braceDelta_append, braceDelta_append, braceDelta_append, r.inlineSelector.braceless.delta,
      r.inlineDeclarations.braceless.delta]
    rfl

/-- The selector of a rule is what comes first, whatever follows the rule. -/
theorem takeWhile_text (r : InlineRule) (rest : List Char) :
    (r.text ++ rest).takeWhile (· != '{') = r.selector := by
  have hrule : r.text ++ rest = r.selector ++ '{' :: (r.declarations ++ ['}'] ++ rest) := by
    simp [text]
  rw [hrule, takeWhile_append_cons r.inlineSelector.braceless.1]

theorem isIncluded_text (r : InlineRule) : isIncluded r.text target = r.selects target := by
  have hselector := r.takeWhile_text []
  rw [List.append_nil] at hselector
  rw [r.ruleLine.isIncluded_eq, hselector, selects]

end InlineRule

/-- Rules with a line each. -/
def spread (rules : List InlineRule) : List Char := joinWith ['\n'] (rules.map InlineRule.text)

/-- Rules on one line. -/
def packed (rules : List InlineRule) : List Char := joinWith [' '] (rules.map InlineRule.text)

/-- The line that rules share is taken for one rule. -/
theorem ruleLine_packed (r : InlineRule) (rules : List InlineRule) : RuleLine (packed (r :: rules)) := by
  have hmem : ∀ {c}, c ≠ ' ' → (∀ s : InlineRule, c ∉ s.text) → c ∉ packed (r :: rules) := fun hc h =>
    not_mem_joinWith (by simpa using hc) (List.forall_mem_map.2 fun s _ => h s)
  refine ⟨hmem (by decide) fun s => s.ruleLine.oneLine, hmem (by decide) fun s => s.ruleLine.noAt,
    ⟨?_, ?_⟩, ?_, ?_⟩
  · exact not_occurs_joinWith rfl (by simp) rfl (List.forall_mem_map.2 fun s _ => s.ruleLine.plain.1)
  · -- the line ends as its last rule does
    rcases List.eq_nil_or_concat (r :: rules) with hnil | ⟨init, last, hlast⟩
    · cases hnil
    · rw [hlast, packed, List.concat_eq_append, List.map_append, List.map_singleton,
        last.text_eq_concat, joinWith_concat_append]
      simp
  · exact (infix_joinWith [' '] (List.mem_map_of_mem List.mem_cons_self)).mem r.ruleLine.brace
  · rw [packed, braceDelta_joinWith rfl]
    exact depth_eq_zero (List.forall_mem_map.2 fun s _ => s.ruleLine.balanced)

theorem isIncluded_packed (r : InlineRule) (rules : List InlineRule) :
    isIncluded (packed (r :: rules)) target = r.selects target := by
  rw [(ruleLine_packed r rules).isIncluded_eq, packed, List.map_cons, joinWith_cons, r.takeWhile_text,
    InlineRule.selects]

/-! ## What shows -/

/-- The characters of a text that are not blank. -/
def visible (cs : List Char) : List Char := cs.filter fun c => !isBlank c

theorem visible_append (a b : List Char) : visible (a ++ b) = visible a ++ visible b := List.filter_append a b

theorem visible_of_blank {w : List Char} (h : isBlankText w = true) : visible w = [] :=
  List.filter_eq_nil_iff.2 fun c hc => by simp [isBlank_of_mem h hc]

theorem visible_renderSheet (us : List (List Char)) : visible (renderSheet us) = us.flatMap visible := by
  obtain ⟨v, w, hv, hw, e⟩ := exists_trim (joinWith ['\n', '\n'] us)
  have htrim : visible (joinWith ['\n', '\n'] us) = visible (trim (joinWith ['\n', '\n'] us)) := by
    conv_lhs => rw [e]
    rw [visible_append, visible_append, visible_of_blank hv, visible_of_blank hw, List.nil_append,
      List.append_nil]
  rw [renderSheet_eq, ← htrim, visible, filter_joinWith (by decide), List.flatMap_def,
    List.filter_flatten]
  rfl

theorem InlineRule.visible_text_ne_nil (r : InlineRule) : visible r.text ≠ [] :=
  List.ne_nil_of_mem (List.mem_filter.2 ⟨r.ruleLine.brace, rfl⟩)

theorem visible_packed (rules : List InlineRule) :
    visible (packed rules) = rules.flatMap fun r => visible r.text := by
  rw [visible, packed, filter_joinWith (by decide), List.filter_flatten, List.map_map, List.flatMap_def]
  rfl

/-- A part of a list shows as much as the whole list only if nothing is missing. -/
theorem flatMap_filter_eq_iff {α β : Type} {f : α → Bool} {g : α → List β} (hg : ∀ a, g a ≠ [])
    (as : List α) : (as.filter f).flatMap g = as.flatMap g ↔ ∀ a ∈ as, f a = true := by
  induction as with
  | nil => simp
  | cons a as ih =>
    rw [List.forall_mem_cons, ← ih]
    cases ha : f a with
    | true => simp [ha]
    | false =>
      refine iff_of_false (fun e => ?_) (by simp)
      have hle := (List.Sublist.flatMap (List.filter_sublist (p := f) (l := as)) g).length_le
      have hlength := congrArg List.length e
      have hpos := List.length_pos_of_ne_nil (hg a)
      rw [List.filter_cons_of_neg (by simp [ha]), List.flatMap_cons, List.length_append] at hlength
      omega

/-! ## Filtering -/

theorem filter_spread (rules : List InlineRule) (target : ClassSet) :
    filter (spread rules) target { maxBytes := none } =
      .ok (renderSheet ((rules.filter (·.selects target)).map InlineRule.text)) := by
  rw [spread, filter_ruleLines (List.forall_mem_map.2 fun r _ => r.ruleLine), List.filter_map]
  simp only [Function.comp_def, InlineRule.isIncluded_text]

theorem filter_packed (rules : List InlineRule) (target : ClassSet) :
    filter (packed rules) target { maxBytes := none } =
      .ok (renderSheet (if rules.head?.any (·.selects target) then [packed rules] else [])) := by
  cases rules with
  | nil => exact @filter_ruleLines [] nofun target
  | cons r rules =>
    have hline : ∀ l ∈ [packed (r :: rules)], RuleLine l := by simpa using ruleLine_packed r rules
    have hfilter := filter_ruleLines hline target
    rw [joinWith_singleton, List.filter_cons, isIncluded_packed] at hfilter
    exact hfilter

theorem byteSize_packed (rules : List InlineRule) : byteSize (packed rules) = byteSize (spread rules) := by
  have hsep : byteSize [' '] = byteSize ['\n'] := rfl
  exact byteSize_joinWith hsep _

/-- Whether both layouts show the same: nothing is left out of what is kept, or nothing is kept. -/
theorem visible_agree_iff (rules : List InlineRule) (target : ClassSet) :
    (rules.filter (·.selects target)).flatMap (fun r => visible r.text) =
        (if rules.head?.any (·.selects target) then rules.flatMap fun r => visible r.text else []) ↔
      ∀ r ∈ rules, ∀ s ∈ rules, r.selects target = s.selects target := by
  cases rules with
  | nil => simp
  | cons r rules =>
    have hfirst : (∀ a ∈ r :: rules, ∀ b ∈ r :: rules, a.selects target = b.selects target) ↔
        ∀ a ∈ r :: rules, a.selects target = r.selects target :=
      ⟨fun h a ha => h a ha r List.mem_cons_self, fun h a ha b hb => (h a ha).trans (h b hb).symm⟩
    rw [hfirst, List.head?_cons, Option.any_some]
    cases hr : r.selects target with
    | true =>
      rw [if_pos rfl]
      exact flatMap_filter_eq_iff InlineRule.visible_text_ne_nil _
    | false =>
      rw [if_neg (by decide), List.flatMap_eq_nil_iff]
      constructor
      · intro h a ha
        rw [Bool.eq_false_iff]
        exact fun hsel => a.visible_text_ne_nil (h a (List.mem_filter.2 ⟨ha, hsel⟩))
      · intro h a ha
        obtain ⟨ha, hsel⟩ := List.mem_filter.1 ha
        rw [h a ha] at hsel
        cases hsel

/-- Rules on lines of their own are kept one by one, as their selectors say. On a shared line all stay if
the first is selected, and none if it is not; so both layouts leave the same if and only if all rules
are selected alike. -/
theorem filter_packed_iff (rules : List InlineRule) (target : ClassSet) :
    (defaultMaxBytes < byteSize (spread rules) ∧ filter (packed rules) target = filter (spread rules) target) ∨
      ∃ o p, filter (spread rules) target = .ok o ∧ filter (packed rules) target = .ok p ∧
        visible o = (rules.filter (·.selects target)).flatMap (fun r => visible r.text) ∧
        visible p = (if rules.head?.any (·.selects target) then rules.flatMap fun r => visible r.text else []) ∧
        (visible o = visible p ↔ ∀ r ∈ rules, ∀ s ∈ rules, r.selects target = s.selects target) := by
  rw [@filter_of_not_verify {} rfl (packed rules), @filter_of_not_verify {} rfl (spread rules), byteSize_packed]
  cases hsize : SizeLimit.brokenBy (some defaultMaxBytes) (byteSize (spread rules)) with
  | some limit =>
    refine .inl ⟨?_, rfl⟩
    obtain ⟨hlimit, hlt⟩ := Option.filter_eq_some_iff.1 hsize
    rw [Option.some.inj hlimit]
    exact of_decide_eq_true hlt
  | none =>
    have ho : visible (renderSheet ((rules.filter (·.selects target)).map InlineRule.text)) =
        (rules.filter (·.selects target)).flatMap (fun r => visible r.text) := by
      rw [visible_renderSheet, List.flatMap_map]
    have hp : visible (renderSheet (if rules.head?.any (·.selects target) then [packed rules] else [])) =
        (if rules.head?.any (·.selects target) then rules.flatMap fun r => visible r.text else []) := by
      rw [visible_renderSheet]
      split
      · rw [List.flatMap_singleton, visible_packed]
      · rfl
    refine .inr ⟨_, _, filter_spread rules target, filter_packed rules target, ho, hp, ?_⟩
    rw [ho, hp, visible_agree_iff]

/-- Where only the second of two rules is selected, it stays on a line of its own and goes on a shared one. -/
theorem filter_packed_iff_apart :
    let a : InlineRule := ⟨".a ".toList, " x ".toList, by decide, by decide⟩
    let b : InlineRule := ⟨".b ".toList, " y ".toList, by decide, by decide⟩
    ∃ o p, filter (spread [a, b]) (ClassSet.ofList ["b"]) = .ok o ∧
      filter (packed [a, b]) (ClassSet.ofList ["b"]) = .ok p ∧
      visible o = ".b\x7by\x7d".toList ∧ visible p = [] := by
  intro a b
  rcases filter_packed_iff [a, b] (ClassSet.ofList ["b"]) with ⟨hlarge, -⟩ | ⟨o, p, ho, hp, hvo, hvp, -⟩
  · exact absurd hlarge (by decide +kernel)
  · refine ⟨o, p, ho, hp, hvo.trans ?_, hvp.trans ?_⟩ <;> decide +kernel

/-- Two rules, of which only the second mentions the class. -/
theorem filter_packed_two_rules :
    filter ".a \x7b x \x7d\n.b \x7b y \x7d".toList (ClassSet.ofList ["b"]) = .ok ".b \x7b y \x7d".toList ∧
      filter ".a \x7b x \x7d .b \x7b y \x7d".toList (ClassSet.ofList ["b"]) = .ok [] := by
  decide +kernel

end UsedCss.Css
