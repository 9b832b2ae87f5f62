import UsedCss.Proofs.Css.Output
import UsedCss.Proofs.Css.Target
/-!
# Rules inside a media block

Pruning a media block and pruning what is left of it give the same (`pruneBlock_idempotent`): the rebuilt
block is cut at the same places and has just the rules that were included. Keyframes are kept whole on
their own, but between the braces of a media block only if no vendor's name stands in front of the word
(`keyframes_kept_iff`).
-/

namespace UsedCss.Css

open UsedCss.Text

variable {target : ClassSet} {text t : List Char} {block : MediaBlock} {cs : List Construct}
  {rules : List (List (List Char))}

/-! ## Pruning twice -/

/-- The rules of a media block that are left of it, by their lines. -/
structure RulesLeft (target : ClassSet) (cs : List Construct) (rules : List (List (List Char))) : Prop where
  nonempty : rules ≠ []
  texts : includedRules target cs = rules.map (joinWith Layout.body.separator)
  rule : ∀ r ∈ rules, Complete .body .rule r ∧ isIncluded (joinWith Layout.body.separator r) target = true
  line : ∀ l ∈ rules.flatten, isBlankText l = false ∧ '\n' ∉ l ∧ trim l = l

theorem exists_rulesLeft {css : List Char} (h : scan .body css = .ok cs) (hne : includedRules target cs ≠ []) :
    ∃ rules, RulesLeft target cs rules := by
  obtain ⟨rules, e, hall, hsub⟩ := exists_includedRules target h
  refine ⟨rules, ?_, e, hall, fun l hl => mem_codeLines_body (hsub.subset hl)⟩
  rintro rfl
  exact hne e

/-- What stands between the braces of a rebuilt block is scanned as the rules that it was printed from. -/
theorem scan_rulesLeft (h : RulesLeft target cs rules)
    (hc : ∀ t ∈ rules.map (joinWith Layout.body.separator), occurs commentOpen t = false) :
    ∃ ds, scan .body (trim (indent ++ joinWith (['\n', '\n'] ++ indent)
        (rules.map (joinWith Layout.body.separator)))) = .ok ds ∧
      ds.map Construct.view = rules.map fun r => (.rule, joinWith Layout.body.separator r) := by
  have hno : occurs commentOpen (indent ++ joinWith (['\n', '\n'] ++ indent)
      (rules.map (joinWith Layout.body.separator))) = false := by
    rw [occurs_of_blank_append rfl rfl]
    exact not_occurs_joinWith rfl (by simp) rfl hc
  have hline : ∀ r ∈ rules, r ≠ [] ∧ ∀ l ∈ r, isBlankText l = false ∧ '\n' ∉ l := by
    intro r hr
    refine ⟨(h.rule r hr).1.ne_nil, fun l hl => ?_⟩
    obtain ⟨hb, hn, -⟩ := h.line l (List.mem_flatten_of_mem hr hl)
    exact ⟨hb, hn⟩
  refine scan_of_filledLines hno (fun r hr => (h.rule r hr).1) ?_
  rw [filledLines_rules h.nonempty hline, map_trim_indent fun l hl => (h.line l hl).2.2]

theorem kind_of_body {css : List Char} (h : scan .body css = .ok cs) : ∀ c ∈ cs, c.kind = .rule :=
  kind_of_scan (fun _ _ => rfl) h

/-- What is left of a block without comment openers is left as it is. If it is a media block, its rules
are the rules of the block that were included, and they all still are. -/
theorem pruneBlock_idempotent (hc : occurs commentOpen text = false)
    (h : pruneBlock text target = .ok (some t)) :
    pruneBlock t target = .ok (some t) ∧
      (isKeyframesHeader (trimStart text) = false →
        ∃ block cs block' ds, MediaBlock.ofText? text = some block ∧ scan .body block.body = .ok cs ∧
          MediaBlock.ofText? t = some block' ∧ scan .body block'.body = .ok ds ∧
          block'.header = block.header ∧
          (∀ d ∈ ds, d.kind = .rule ∧ isIncluded d.text target = true) ∧
          ds.map Construct.text = includedRules target cs) := by
  rcases pruneBlock_eq_some h with ⟨hk, rfl⟩ | ⟨-, block, cs, hb, hs, hne, rfl⟩
  · exact ⟨h, fun hk' => absurd hk (by simp [hk'])⟩
  obtain ⟨rules, hleft⟩ := exists_rulesLeft hs hne
  have hno : ∀ t ∈ includedRules target cs, occurs commentOpen t = false := by
    intro t ht
    obtain ⟨d, hd, -, -, rfl⟩ := mem_includedRules.1 ht
    exact occurs_rules hc hb hs d hd
  rw [hleft.texts] at hno ⊢
  have hcut := ofText?_renderBlock (not_mem_header hb) (trim_header hb)
    (rules.map (joinWith Layout.body.separator))
  obtain ⟨ds, hds, hview⟩ := scan_rulesLeft hleft hno
  have htexts : ds.map Construct.text = rules.map (joinWith Layout.body.separator) := by
    have hsnd := congrArg (List.map Prod.snd) hview
    rw [List.map_map, List.map_map] at hsnd
    exact hsnd
  refine ⟨?_, fun _ => ⟨block, cs, _, ds, hb, hs, hcut, hds, rfl, fun d hd => ⟨kind_of_body hds d hd, ?_⟩,
    htexts.trans hleft.texts.symm⟩⟩
  · -- rules may make a keyframes block of an at-rule that has a dash in its header
    cases hk : isKeyframesHeader (trimStart (renderBlock block.header
        (rules.map (joinWith Layout.body.separator)))) with
    | true => exact pruneBlock_keyframes hk
    | false =>
      have hall := includedIn_eq fun r hr => (hleft.rule r hr).2
      rw [pruneBlock_eq hk hcut, hds, Except.map, includedRules_of_view hview, hall,
        if_neg (by simpa using hleft.nonempty)]
  · have hmem : d.text ∈ ds.map Construct.text := List.mem_map_of_mem hd
    rw [htexts] at hmem
    obtain ⟨r, hr, e⟩ := List.mem_map.1 hmem
    rw [← e]
    exact (hleft.rule r hr).2

/-- A block with a closing brace in its header and a statement between its rules. -/
theorem pruneBlock_idempotent_stray :
    occurs commentOpen "@media \x7d p \x7b\n.a\n \x7b x \x7d\n@import y;\n.b \x7b z \x7d\n\x7d w".toList = false ∧
      isKeyframesHeader (trimStart "@media \x7d p \x7b\n.a\n \x7b x \x7d\n@import y;\n.b \x7b z \x7d\n\x7d w".toList) = false ∧
      pruneBlock "@media \x7d p \x7b\n.a\n \x7b x \x7d\n@import y;\n.b \x7b z \x7d\n\x7d w".toList (ClassSet.ofList ["a"]) =
        .ok (some "@media \x7d p \x7b\n    .a\n    \x7b x \x7d\n\x7d".toList) ∧
      pruneBlock "@media \x7d p \x7b\n    .a\n    \x7b x \x7d\n\x7d".toList (ClassSet.ofList ["a"]) =
        .ok (some "@media \x7d p \x7b\n    .a\n    \x7b x \x7d\n\x7d".toList) ∧
      ∃ block cs block' ds,
        MediaBlock.ofText? "@media \x7d p \x7b\n.a\n \x7b x \x7d\n@import y;\n.b \x7b z \x7d\n\x7d w".toList = some block ∧
        scan .body block.body = .ok cs ∧
        MediaBlock.ofText? "@media \x7d p \x7b\n    .a\n    \x7b x \x7d\n\x7d".toList = some block' ∧
        scan .body block'.body = .ok ds ∧ block'.header = block.header ∧
        (∀ d ∈ ds, d.kind = .rule ∧ isIncluded d.text (ClassSet.ofList ["a"]) = true) ∧
        ds.map Construct.text = includedRules (ClassSet.ofList ["a"]) cs := by
  have hc : occurs commentOpen "@media \x7d p \x7b\n.a\n \x7b x \x7d\n@import y;\n.b \x7b z \x7d\n\x7d w".toList = false := by decide
  have hk : isKeyframesHeader (trimStart "@media \x7d p \x7b\n.a\n \x7b x \x7d\n@import y;\n.b \x7b z \x7d\n\x7d w".toList) = false := by
    decide
  have h : pruneBlock "@media \x7d p \x7b\n.a\n \x7b x \x7d\n@import y;\n.b \x7b z \x7d\n\x7d w".toList (ClassSet.ofList ["a"]) =
      .ok (some "@media \x7d p \x7b\n    .a\n    \x7b x \x7d\n\x7d".toList) := by decide +kernel
  obtain ⟨hagain, hrules⟩ := pruneBlock_idempotent hc h
  exact ⟨hc, hk, h, hagain, hrules hk⟩

/-! ## Keyframes -/

/-- Whether a rule names keyframes or a font face, without a vendor in front of the word. -/
def NamesKept (rule : List Char) : Prop :=
  occurs "@keyframes".toList rule = true ∨ occurs "@font-face".toList rule = true

/-- These are the rules that are included whatever the target set is. -/
theorem forall_isIncluded_iff {rule : List Char} :
    (∀ target, isIncluded rule target = true) ↔ NamesKept rule := by
  constructor
  · intro h
    have hno : mentions ClassSet.empty (rule.takeWhile (· != '{')) = false :=
      List.any_eq_false.2 fun _ _ => Bool.false_ne_true
    have he := h ClassSet.empty
    rw [isIncluded_eq, hno, Bool.and_false, Bool.or_false, Bool.or_eq_true] at he
    exact he
  · intro h target
    rw [isIncluded_eq, Bool.or_eq_true, Bool.or_eq_true]
    exact .inl h

/-- A rule of a media block is left in the block if and only if it is included. -/
theorem mem_pruned_iff (hk : isKeyframesHeader (trimStart text) = false)
    (hb : MediaBlock.ofText? text = some block) (hs : scan .body block.body = .ok cs)
    {c : Construct} (hc : c ∈ cs) :
    (pruneBlock text target = .ok (some (renderBlock block.header (includedRules target cs))) ∧
      c.text ∈ includedRules target cs) ↔ isIncluded c.text target = true := by
  constructor
  · rintro ⟨-, hmem⟩
    obtain ⟨d, -, -, hi, e⟩ := mem_includedRules.1 hmem
    rwa [e] at hi
  · intro hi
    have hmem : c.text ∈ includedRules target cs :=
      mem_includedRules.2 ⟨c, hc, kind_of_body hs c hc, hi, rfl⟩
    refine ⟨?_, hmem⟩
    rw [pruneBlock_eq hk hb, hs, Except.map, if_neg (List.ne_nil_of_mem hmem)]

/-- On its own a keyframes block is kept whole for every target set. As a rule, also as one in a media
block, it is if and only if it names keyframes or a font face, and without a vendor's name it does. -/
theorem keyframes_kept_iff (hk : isKeyframesHeader (trimStart text) = true) :
    (∀ target, pruneBlock text target = .ok (some text)) ∧
      ((∀ target, isIncluded text target = true) ↔ NamesKept text) ∧
      ("@keyframes".toList <+: trimStart text → NamesKept text) ∧
      ∀ outer block cs c, isKeyframesHeader (trimStart outer) = false →
        MediaBlock.ofText? outer = some block → scan .body block.body = .ok cs → c ∈ cs → c.text = text →
        ((∀ target,
          pruneBlock outer target = .ok (some (renderBlock block.header (includedRules target cs))) ∧
            text ∈ includedRules target cs) ↔ NamesKept text) := by
  refine ⟨fun _ => pruneBlock_keyframes hk, forall_isIncluded_iff, fun h => ?_, ?_⟩
  · exact .inl (occurs_iff.2 (h.isInfix.trans (trimStart_isSuffix text).isInfix))
  · rintro outer block cs c ho hb hs hc rfl
    rw [← forall_isIncluded_iff]
    exact forall_congr' fun target => mem_pruned_iff ho hb hs hc

/-- Keyframes in front of a rule that mentions no class of the set. -/
theorem keyframes_kept_iff_media :
    isKeyframesHeader (trimStart "@keyframes s \x7b to \x7b x \x7d \x7d".toList) = true ∧
      pruneBlock "@media p \x7b\n@keyframes s \x7b to \x7b x \x7d \x7d\n.a \x7b y \x7d\n\x7d".toList ClassSet.empty =
        .ok (some "@media p \x7b\n    @keyframes s \x7b to \x7b x \x7d \x7d\n\x7d".toList) := by
  have hk : isKeyframesHeader (trimStart "@keyframes s \x7b to \x7b x \x7d \x7d".toList) = true := by decide
  have hb : MediaBlock.ofText?
      "@media p \x7b\n@keyframes s \x7b to \x7b x \x7d \x7d\n.a \x7b y \x7d\n\x7d".toList =
      some ⟨"@media p".toList, "@keyframes s \x7b to \x7b x \x7d \x7d\n.a \x7b y \x7d".toList⟩ := by decide
  have hs : scan .body "@keyframes s \x7b to \x7b x \x7d \x7d\n.a \x7b y \x7d".toList =
      .ok [⟨.rule, "@keyframes s \x7b to \x7b x \x7d \x7d".toList, 1⟩,
        ⟨.rule, ".a \x7b y \x7d".toList, 2⟩] := by rfl
  obtain ⟨-, -, hnames, hmedia⟩ := keyframes_kept_iff hk
  have hkept := (hmedia _ _ _ _ (by decide) hb hs List.mem_cons_self rfl).2 (hnames (by decide))
  exact ⟨hk, (hkept ClassSet.empty).1.trans (by decide +kernel)⟩

/-- With a vendor's name they are dropped there. -/
theorem keyframes_dropped_vendor :
    isKeyframesHeader (trimStart "@-webkit-keyframes spin \x7b to \x7b x: y; \x7d \x7d".toList) = true ∧
      isIncluded "@-webkit-keyframes spin \x7b to \x7b x: y; \x7d \x7d".toList ClassSet.empty = false ∧
      scan .body "@-webkit-keyframes spin \x7b to \x7b x: y; \x7d \x7d".toList =
        .ok [⟨.rule, "@-webkit-keyframes spin \x7b to \x7b x: y; \x7d \x7d".toList, 1⟩] ∧
      pruneBlock "@-webkit-keyframes spin \x7b to \x7b x: y; \x7d \x7d".toList ClassSet.empty =
        .ok (some "@-webkit-keyframes spin \x7b to \x7b x: y; \x7d \x7d".toList) ∧
      pruneBlock "@media print \x7b\n@-webkit-keyframes spin \x7b to \x7b x: y; \x7d \x7d\n\x7d".toList
        ClassSet.empty = .ok none := by
  decide +kernel

end UsedCss.Css
