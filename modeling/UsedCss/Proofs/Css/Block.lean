import Mathlib.Data.List.Flatten
import UsedCss.Css.Filter
import UsedCss.Proofs.Css.Names
import UsedCss.Proofs.Css.Segment
/-!
# Media blocks

A media block is cut at its first and at its last brace, and its rules are found by a second scan.
`pruneBlock_blockLines` says what is left of a block that is written line by line.
-/

namespace UsedCss.Css

open UsedCss.Text

variable {target : ClassSet}

/-! ## Cutting a block -/

theorem ofText?_append {h r : List Char} (ho : '{' ∉ h) (hc : '}' ∉ r) (b : List Char) :
    MediaBlock.ofText? (h ++ '{' :: (b ++ '}' :: r)) = some ⟨trim h, trim b⟩ := by
  rw [MediaBlock.ofText?, dropWhile_append_cons ho, takeWhile_append_cons ho]
  simp only [beforeLast_append_cons hc, Option.map_some]

theorem exists_of_ofText? {text : List Char} {block : MediaBlock}
    (h : MediaBlock.ofText? text = some block) :
    ∃ a b r, '{' ∉ a ∧ '}' ∉ r ∧ text = a ++ '{' :: (b ++ '}' :: r) ∧ block = ⟨trim a, trim b⟩ := by
  by_cases ho : '{' ∈ text
  · obtain ⟨a, inner, rfl, ha⟩ := List.eq_append_cons_of_mem ho
    rw [MediaBlock.ofText?, dropWhile_append_cons ha, takeWhile_append_cons ha,
      Option.map_eq_some_iff] at h
    obtain ⟨b, hb, rfl⟩ := h
    obtain ⟨r, hr, rfl⟩ := eq_of_beforeLast hb
    exact ⟨a, b, r, ha, hr, rfl, rfl⟩
  · have e : text.dropWhile (· != '{') = [] :=
      List.dropWhile_eq_nil_iff.2 fun c hc => by simpa using ne_of_mem_of_not_mem hc ho
    rw [MediaBlock.ofText?, e] at h
    cases h

theorem ofText?_trimStart {text : List Char} {block : MediaBlock}
    (h : MediaBlock.ofText? text = some block) :
    MediaBlock.ofText? (trimStart text) = some block := by
  obtain ⟨a, b, r, ha, hr, rfl, rfl⟩ := exists_of_ofText? h
  rw [trimStart_append_cons (by decide),
    ofText?_append (fun hm => ha ((trimStart_isSuffix a).mem hm)) hr, trim_trimStart]

theorem ofText?_trimEnd {text : List Char} {block : MediaBlock}
    (h : MediaBlock.ofText? text = some block) :
    MediaBlock.ofText? (trimEnd text) = some block := by
  obtain ⟨a, b, r, ha, hr, rfl, rfl⟩ := exists_of_ofText? h
  have e : ∀ w, a ++ '{' :: (b ++ '}' :: w) = (a ++ '{' :: b) ++ '}' :: w := fun w => by simp
  rw [e, trimEnd_append_cons (by decide), ← e,
    ofText?_append ha (fun hm => hr ((trimEnd_isPrefix r).mem hm))]

/-! ## Pruning -/

variable {text t : List Char} {block : MediaBlock} {cs : List Construct}

theorem pruneBlock_keyframes (h : isKeyframesHeader (trimStart text) = true) :
    pruneBlock text target = .ok (some text) := by
  rw [pruneBlock, if_pos h]

theorem pruneBlock_empty (hk : isKeyframesHeader (trimStart text) = false)
    (hb : MediaBlock.ofText? text = some block) (he : block.body = []) :
    pruneBlock text target = .ok none := by
  rw [pruneBlock, if_neg (by simp [hk]), hb]
  simp [he]

/-- A media block with a body is rebuilt around those of its rules that are included. -/
theorem pruneBlock_of_scan (hk : isKeyframesHeader (trimStart text) = false)
    (hb : MediaBlock.ofText? text = some block) (hne : block.body ≠ [])
    (hs : scan .body block.body = .ok cs) :
    pruneBlock text target =
      .ok (if includedRules target cs = [] then none
        else some (renderBlock block.header (includedRules target cs))) := by
  rw [pruneBlock, if_neg (by simp [hk]), hb]
  simp only [hs, List.isEmpty_iff, if_neg hne, bind, Except.bind]
  cases includedRules target cs <;> rfl

theorem pruneBlock_none (hk : isKeyframesHeader (trimStart text) = false)
    (hb : MediaBlock.ofText? text = none) : pruneBlock text target = .ok none := by
  rw [pruneBlock, if_neg (by simp [hk]), hb]

/-- A block that is not a keyframes block is pruned by a scan of its body. An empty body is dropped before
its scan, which finds nothing in it either. -/
theorem pruneBlock_eq (hk : isKeyframesHeader (trimStart text) = false)
    (hb : MediaBlock.ofText? text = some block) :
    pruneBlock text target = (scan .body block.body).map fun cs =>
      if includedRules target cs = [] then none
      else some (renderBlock block.header (includedRules target cs)) := by
  rcases eq_or_ne block.body [] with he | hne
  · rw [pruneBlock_empty hk hb he, he]
    rfl
  cases hs : scan .body block.body with
  | error e =>
    rw [pruneBlock, if_neg (by simp [hk]), hb]
    simp only [hs, List.isEmpty_iff, if_neg hne]
    rfl
  | ok cs => exact pruneBlock_of_scan hk hb hne hs

/-- Pruning a block does not fail where the scan of its body does not. -/
theorem exists_pruneBlock (target : ClassSet)
    (h : ∀ block, MediaBlock.ofText? text = some block → ∃ cs, scan .body block.body = .ok cs) :
    ∃ r, pruneBlock text target = .ok r := by
  cases hk : isKeyframesHeader (trimStart text) with
  | true => exact ⟨_, pruneBlock_keyframes hk⟩
  | false =>
    cases hb : MediaBlock.ofText? text with
    | none => exact ⟨none, pruneBlock_none hk hb⟩
    | some block =>
      obtain ⟨cs, hs⟩ := h block hb
      rw [pruneBlock_eq hk hb, hs]
      exact ⟨_, rfl⟩

/-- What is left of a block is the whole of it, or it comes from a scan of its body. -/
theorem pruneBlock_eq_some (h : pruneBlock text target = .ok (some t)) :
    isKeyframesHeader (trimStart text) = true ∧ t = text ∨
      isKeyframesHeader (trimStart text) = false ∧
        ∃ block cs, MediaBlock.ofText? text = some block ∧ scan .body block.body = .ok cs ∧
        includedRules target cs ≠ [] ∧ t = renderBlock block.header (includedRules target cs) := by
  cases hk : isKeyframesHeader (trimStart text) with
  | true =>
    rw [pruneBlock_keyframes hk] at h
    cases h
    exact .inl ⟨rfl, rfl⟩
  | false =>
    refine .inr ⟨rfl, ?_⟩
    cases hb : MediaBlock.ofText? text with
    | none =>
      rw [pruneBlock_none hk hb] at h
      cases h
    | some block =>
      rw [pruneBlock_eq hk hb] at h
      cases hs : scan .body block.body with
      | error e =>
        rw [hs] at h
        cases h
      | ok cs =>
        rw [hs, Except.map, Except.ok.injEq] at h
        split at h
        · cases h
        · next hr =>
          cases h
          exact ⟨block, cs, rfl, hs, hr, rfl⟩

theorem prune_eq_ok_iff {c : Construct} {r : Option (List Char)} :
    prune target c = .ok r ↔
      c.kind = .rule ∧ r = (if isIncluded c.text target then some c.text else none) ∨
        c.kind = .atRule ∧ pruneBlock c.text target = .ok r := by
  rw [prune]
  cases c.kind with
  | rule =>
    simp only [Except.ok.injEq, eq_comm (a := r), true_and, reduceCtorEq, false_and, or_false]
  | atRule => cases pruneBlock c.text target <;> simp [Except.mapError]

theorem prune_rule {c : Construct} (h : c.kind = .rule) :
    prune target c = .ok (if isIncluded c.text target then some c.text else none) :=
  prune_eq_ok_iff.2 (.inl ⟨h, rfl⟩)

theorem prune_atRule {c : Construct} (h : c.kind = .atRule) :
    prune target c = (pruneBlock c.text target).mapError fun _ => .unbalancedBrace c.line := by
  rw [prune, h]

/-- The number of a construct's line has no part in what is left of it. -/
theorem prune_line {kind : Construct.Kind} {n : Nat} {r : Option (List Char)}
    (h : prune target ⟨kind, text, n⟩ = .ok r) (m : Nat) :
    prune target ⟨kind, text, m⟩ = .ok r := by
  rw [prune_eq_ok_iff] at h ⊢
  exact h

/-- The included rules by the constructs without their numbers. -/
theorem includedRules_eq (target : ClassSet) (cs : List Construct) :
    includedRules target cs =
      ((cs.map Construct.view).filter fun v => v.1 = .rule && isIncluded v.2 target).map Prod.snd := by
  rw [includedRules, List.filter_map, List.map_map]
  rfl

/-! ## Blocks by their lines -/

theorem isKeyframesHeader_of_media {cs : List Char} (h : "@media".toList <+: cs) :
    trimStart cs = cs ∧ isBlockAtRule cs = true ∧ isKeyframesHeader cs = false := by
  refine ⟨?_, isBlockAtRule_iff.2 (.inl h), ?_⟩
  · obtain ⟨r, rfl⟩ := h
    exact trimStart_of_not_blank (by decide) _
  · rw [isKeyframesHeader_congr h rfl]
    rfl

theorem startsAtRule_of_media {l : List Char} (h : "@media".toList <+: l) :
    startsAtRule .sheet l = true := by
  obtain ⟨ht, hat, -⟩ := isKeyframesHeader_of_media h
  simp [startsAtRule, ht, hat]

/-- The lines of a media header, `hl` the last of them. -/
structure MediaHeader (hs : List (List Char)) (hl : List Char) : Prop where
  filled : ∀ l ∈ hs ++ [hl], isBlankText l = false
  oneLine : ∀ l ∈ hs ++ [hl], '\n' ∉ l
  braceless : ∀ l ∈ hs ++ [hl], Braceless l
  trimmed : trim (joinWith ['\n'] (hs ++ [hl])) = joinWith ['\n'] (hs ++ [hl])
  media : "@media".toList <+: joinWith ['\n'] (hs ++ [hl])

/-- The lines of a block with a header and a body, the closing brace on a line of its own. -/
def blockLines (hs : List (List Char)) (hl : List Char) (body : List (List Char)) :
    List (List Char) :=
  hs ++ (hl ++ [' ', '{']) :: (body ++ [['}']])

variable {hs body : List (List Char)} {hl : List Char} {rules : List (List (List Char))}

/-- The text of a block between its braces. -/
def blockBody (body : List (List Char)) : List Char := joinWith ['\n'] ([] :: (body ++ [[]]))

theorem joinWith_blockLines (hs : List (List Char)) (hl : List Char) (body : List (List Char)) :
    joinWith ['\n'] (blockLines hs hl body) =
      (joinWith ['\n'] (hs ++ [hl]) ++ [' ']) ++ '{' :: (blockBody body ++ '}' :: []) := by
  have e : blockLines hs hl body =
      (hs ++ [hl ++ [' ', '{']]) ++ (body ++ [['}']]) := by simp [blockLines]
  rw [e, joinWith_append_flatMap _ (by simp), joinWith_concat_append, blockBody, joinWith_cons]
  simp

/-- The brace on the header's line is closed by the last line, if the lines between them balance. -/
theorem closes_blockLines (hb : Braceless hl) (h0 : depth body = 0)
    (hp : ∀ m, m <+: body → 0 ≤ depth m) :
    Closes (braceDelta (hl ++ [' ', '{'])) (body ++ [['}']]) := by
  have hd : braceDelta (hl ++ [' ', '{']) = 1 := by
    rw [braceDelta_append, hb.delta]
    rfl
  rw [hd]
  refine ⟨by rw [depth_append, h0]; rfl, fun m hm hne => ?_⟩
  rcases List.prefix_concat_iff.1 hm with rfl | hm
  · exact absurd rfl hne
  · have := hp m hm
    omega

theorem complete_blockLines (hh : MediaHeader hs hl) (h0 : depth body = 0)
    (hp : ∀ m, m <+: body → 0 ≤ depth m) :
    Complete .sheet .atRule (blockLines hs hl body) := by
  have hb := List.forall_mem_append.1 hh.braceless
  refine ⟨hs, hl ++ [' ', '{'], body ++ [['}']], rfl, .atRule hb.1 ?_ (by simp),
    closes_blockLines (hb.2 hl (by simp)) h0 hp⟩
  have hm := hh.media
  cases hs with
  | nil =>
    exact ⟨_, rfl, startsAtRule_of_media (by simpa using hm.trans (List.prefix_append _ [' ', '{']))⟩
  | cons x xs =>
    refine ⟨x, rfl, startsAtRule_of_media ?_⟩
    cases xs <;> exact isPrefix_of_append_cons (x := '\n') (by decide) (by simpa [joinWith_cons] using hm)

theorem texts_codeLines_body {cs : List Char} (h : occurs commentOpen cs = false) :
    texts (codeLines .body (trim cs)) = (filledLines cs).map trim := by
  have hc : ∀ l ∈ lines (trim cs), occurs commentOpen l = false := fun l hl =>
    occurs_part ((mem_lines hl).2.trans (trim_isInfix cs)) h
  rw [texts_codeLines, stripLines_of_no_comment hc]
  exact (filled_lines_map_trim _).trans (by rw [filledLines_trim, map_trim_trimOuter])

/-- The rules in a block that are included. -/
def includedIn (target : ClassSet) (rules : List (List (List Char))) : List (List Char) :=
  (rules.map (joinWith Layout.body.separator)).filter (isIncluded · target)

/-- The lines of code of a body are filled and trimmed. -/
theorem mem_codeLines_body {css l : List Char} (h : l ∈ texts (codeLines .body css)) :
    isBlankText l = false ∧ '\n' ∉ l ∧ trim l = l := by
  obtain ⟨m, -, hb, hn, rfl⟩ := mem_codeLines h
  exact ⟨by simpa [Layout.shape] using hb, fun hc => hn ((trim_isInfix m).mem hc), trim_trim m⟩

/-- A text whose filled lines are those of rules is scanned as these rules. -/
theorem scan_of_filledLines {css : List Char} (hc : occurs commentOpen css = false)
    (hr : ∀ r ∈ rules, Complete .body .rule r) (e : (filledLines css).map trim = rules.flatten) :
    ∃ cs, scan .body (trim css) = .ok cs ∧
      cs.map Construct.view = rules.map fun r => (.rule, joinWith Layout.body.separator r) := by
  have hcode : texts (codeLines .body (trim css)) =
      (rules.map (Construct.Kind.rule, ·)).flatMap Prod.snd := by
    rw [texts_codeLines_body hc, e, List.flatMap_map, List.flatMap_id']
  have hall : ∀ x ∈ rules.map (Construct.Kind.rule, ·), Complete .body x.1 x.2 :=
    List.forall_mem_map.2 hr
  obtain ⟨cs, hrun, hview⟩ := run_constructs hall hcode
  exact ⟨cs, scan_eq_ok_iff.2 ⟨_, hrun⟩, by rw [hview, List.map_map]; rfl⟩

theorem includedIn_eq (h : ∀ r ∈ rules, isIncluded (joinWith Layout.body.separator r) target = true) :
    includedIn target rules = rules.map (joinWith Layout.body.separator) :=
  List.filter_eq_self.2 (List.forall_mem_map.2 h)

theorem includedRules_of_view
    (h : cs.map Construct.view = rules.map fun r => (.rule, joinWith Layout.body.separator r)) :
    includedRules target cs = includedIn target rules := by
  rw [includedRules_eq, h, includedIn]
  simp [List.filter_map, Function.comp_def]

theorem scan_body (target : ClassSet) (hc : ∀ l ∈ body, occurs commentOpen l = false)
    (hf : ∀ l ∈ body, isBlankText l = false ∧ '\n' ∉ l) (hr : ∀ r ∈ rules, Complete .body .rule r)
    (e : body.map trim = rules.flatten) :
    ∃ cs, scan .body (trim (blockBody body)) = .ok cs ∧
      includedRules target cs = includedIn target rules := by
  have hno : occurs commentOpen (blockBody body) = false :=
    not_occurs_joinWith rfl (by simp) rfl (by simpa [occurs, commentOpen, or_imp, forall_and] using hc)
  have hlines : (filledLines (blockBody body)).map trim = rules.flatten := by
    rw [blockBody, filledLines_joinWith, List.flatMap_cons, List.flatMap_append,
      flatMap_filledLines (fun l hl => (hf l hl).2), filled_eq_self (fun l hl => (hf l hl).1)]
    simpa [show filledLines [] = [] from rfl] using e
  obtain ⟨cs, hs, hview⟩ := scan_of_filledLines hno hr hlines
  exact ⟨cs, hs, includedRules_of_view hview⟩

/-- A media block that is written line by line is cut into its header and its rules. -/
theorem pruneBlock_blockLines (hh : MediaHeader hs hl)
    (hc : ∀ l ∈ body, occurs commentOpen l = false)
    (hf : ∀ l ∈ body, isBlankText l = false ∧ '\n' ∉ l) (hr : ∀ r ∈ rules, Complete .body .rule r)
    (e : body.map trim = rules.flatten) :
    pruneBlock (joinWith ['\n'] (blockLines hs hl body)) target =
      .ok (if includedIn target rules = [] then none
        else some (renderBlock (joinWith ['\n'] (hs ++ [hl])) (includedIn target rules))) := by
  have ho : '{' ∉ joinWith ['\n'] (hs ++ [hl]) ++ [' '] := by
    simpa using not_mem_joinWith (show '{' ∉ ['\n'] by decide) fun l hl => (hh.braceless l hl).1
  have hk : isKeyframesHeader (trimStart (joinWith ['\n'] (blockLines hs hl body))) = false := by
    rw [joinWith_blockLines]
    obtain ⟨ht, -, hk⟩ := isKeyframesHeader_of_media (hh.media.trans
      ((List.prefix_append _ [' ']).trans (List.prefix_append _ ('{' :: (blockBody body ++ '}' :: [])))))
    rw [ht, hk]
  have hb : MediaBlock.ofText? (joinWith ['\n'] (blockLines hs hl body)) =
      some ⟨joinWith ['\n'] (hs ++ [hl]), trim (blockBody body)⟩ := by
    rw [joinWith_blockLines, ofText?_append ho (by simp), trim_append_of_blank rfl, hh.trimmed]
  obtain ⟨cs, hs, hcs⟩ := scan_body target hc hf hr e
  rw [← hcs, pruneBlock_eq hk hb, hs]
  rfl

/-- The included rules of a body by their lines, which stand among the body's lines of code. -/
theorem exists_includedRules (target : ClassSet) {css : List Char} (h : scan .body css = .ok cs) :
    ∃ rules : List (List (List Char)), includedRules target cs =
      rules.map (joinWith Layout.body.separator) ∧
      (∀ r ∈ rules, Complete .body .rule r ∧ isIncluded (joinWith Layout.body.separator r) target = true) ∧
      rules.flatten.Sublist (texts (codeLines .body css)) := by
  obtain ⟨xs, hall, hview, hsub⟩ := scan_constructs h
  let kept (x : Construct.Kind × List (List Char)) : Bool :=
    x.1 = .rule && isIncluded (joinWith Layout.body.separator x.2) target
  refine ⟨(xs.filter kept).map Prod.snd, ?_, ?_, ?_⟩
  · rw [includedRules_eq, hview, List.filter_map, List.map_map, List.map_map]
    rfl
  · rw [List.forall_mem_map]
    intro x hx
    obtain ⟨hx, hkept⟩ := List.mem_filter.1 hx
    obtain ⟨hk, hi⟩ : x.1 = .rule ∧
        isIncluded (joinWith Layout.body.separator x.2) target = true := by
      simpa [kept] using hkept
    exact ⟨hk ▸ hall x hx, hi⟩
  · rw [← List.flatMap_def]
    exact (List.filter_sublist.flatMap Prod.snd).trans hsub

/-! ## The header of a block -/

variable {ls : List (List Char)}

/-- The first opening brace of a construct's text stands on the first line with one. -/
theorem exists_cut_header {kind : Construct.Kind} {head rest : List (List Char)} {l a t : List Char}
    (ho : Opens .sheet kind head l) (ha : '{' ∉ a)
    (e : joinWith ['\n'] (head ++ l :: rest) = a ++ '{' :: t) :
    ∃ g g', l = g ++ '{' :: g' ∧ '{' ∉ g ∧ a = joinWith ['\n'] (head ++ [g]) ∧
      t = joinWith ['\n'] (g' :: rest) := by
  obtain ⟨g, g', rfl, hg⟩ := List.eq_append_cons_of_mem ho.brace
  have hhead : '{' ∉ joinWith ['\n'] (head ++ [g]) := by
    apply not_mem_joinWith (show '{' ∉ ['\n'] by decide)
    intro x hx
    rcases List.mem_append.1 hx with hx | hx
    · exact (ho.braceless x hx).1
    · rwa [List.mem_singleton.1 hx]
  rw [joinWith_append_cons, List.cons_append, ← joinWith_cons] at e
  obtain ⟨rfl, rfl⟩ := append_cons_inj hhead ha e
  exact ⟨g, g', rfl, hg, rfl, rfl⟩

/-- So the header of a block stands on the lines up to there. -/
theorem exists_header {kind : Construct.Kind} {head rest : List (List Char)} {l : List Char}
    (ho : Opens .sheet kind head l)
    (hb : MediaBlock.ofText? (joinWith ['\n'] (head ++ l :: rest)) = some block) :
    ∃ g g', l = g ++ '{' :: g' ∧ '{' ∉ g ∧ block.header = trim (joinWith ['\n'] (head ++ [g])) := by
  obtain ⟨a, b, r, ha, -, htext, rfl⟩ := exists_of_ofText? hb
  obtain ⟨g, g', hl, hg, rfl, -⟩ := exists_cut_header ho ha htext
  exact ⟨g, g', hl, hg, rfl⟩

/-- The same by lines that are not blank. All but the last of them are lines of the at-rule. -/
theorem exists_filledHeader (h : Complete .sheet .atRule ls) (hf : ∀ l ∈ ls, isBlankText l = false)
    (hb : MediaBlock.ofText? (joinWith ['\n'] ls) = some block) (hne : block.header ≠ []) :
    ∃ gs g, block.header = trim (joinWith ['\n'] (gs ++ [g])) ∧ gs ⊆ ls ∧ isBlankText g = false ∧
      ∃ m ∈ ls, g <+: m := by
  obtain ⟨head, l, rest, rfl, ho, -⟩ := h
  obtain ⟨g, g', rfl, -, e⟩ := exists_header ho hb
  cases hblank : isBlankText g with
  | false => exact ⟨head, g, e, by simp, hblank, g ++ '{' :: g', by simp, List.prefix_append _ _⟩
  | true =>
    -- the brace starts its line, so the header ends with the line before
    rcases List.eq_nil_or_concat head with rfl | ⟨gs, x, rfl⟩
    · exact absurd (e.trans (trim_eq_nil.2 (by simpa using hblank))) hne
    · rw [List.concat_eq_append] at hf e ⊢
      refine ⟨gs, x, e.trans ?_, by simp, hf x (by simp), x, by simp, List.prefix_rfl⟩
      rw [joinWith_concat _ (by simp), List.append_assoc]
      exact trim_append_of_blank (by simpa [show isBlank '\n' = true from by decide] using hblank) _

/-- A media header by its lines. -/
theorem exists_mediaHeader {gs : List (List Char)} {g : List Char}
    (hf : ∀ l ∈ gs ++ [g], isBlankText l = false ∧ '\n' ∉ l)
    (hb : Braceless (trim (joinWith ['\n'] (gs ++ [g]))))
    (hm : "@media".toList <+: trim (joinWith ['\n'] (gs ++ [g]))) :
    ∃ hs hl, trim (joinWith ['\n'] (gs ++ [g])) = joinWith ['\n'] (hs ++ [hl]) ∧ MediaHeader hs hl ∧
      ∀ l ∈ hs, ∃ m ∈ gs, l <:+ m := by
  have filled : ∀ l ∈ gs ++ [g], isBlankText l = false := fun l hl => (hf l hl).1
  have e : trim (joinWith ['\n'] (gs ++ [g])) = joinWith ['\n'] (trimOuter (gs ++ [g])) :=
    (joinWith_trimOuter filled).symm
  have hall : ∀ l ∈ trimOuter (gs ++ [g]), isBlankText l = false ∧ '\n' ∉ l :=
    forall_mem_modifyLast (fun l hl => ⟨by simpa using hl.1, fun hn => hl.2 ((trimEnd_isPrefix l).mem hn)⟩)
      (forall_mem_modifyHead (fun l hl => ⟨by simpa using hl.1, fun hn => hl.2 ((trimStart_isSuffix l).mem hn)⟩) hf)
  have main : ∀ hs hl, trimOuter (gs ++ [g]) = hs ++ [hl] → MediaHeader hs hl := by
    intro hs hl htrim
    rw [htrim] at hall e
    refine ⟨fun l hl => (hall l hl).1, fun l hl => (hall l hl).2, fun l hl => ?_, ?_, ?_⟩
    · exact hb.of_subset fun c hc => by rw [e]; exact (infix_joinWith _ hl).subset hc
    · rw [← e, trim_trim]
    · rw [← e]; exact hm
  -- a header on one line loses both ends of it, a longer one the ends of two lines
  rcases eq_or_ne gs [] with rfl | hne
  · have htrim : trimOuter ([] ++ [g]) = [] ++ [trim g] :=
      List.modifyLast_concat trimEnd (trimStart g) []
    exact ⟨[], trim g, by rw [e, htrim], main _ _ htrim, by simp⟩
  · have htrim := trimOuter_concat hne g
    refine ⟨_, _, by rw [e, htrim], main _ _ htrim, ?_⟩
    refine forall_mem_modifyHead (fun l hl => ?_) fun l hl => ⟨l, hl, List.suffix_rfl⟩
    obtain ⟨m, hm, hs⟩ := hl
    exact ⟨m, hm, (trimStart_isSuffix l).trans hs⟩

/-! ## Rebuilt blocks -/

/-- What stands in front of a line in a rebuilt block. -/
def indent : List Char := [' ', ' ', ' ', ' ']

theorem renderBlock_eq (header : List Char) (ts : List (List Char)) :
    renderBlock header ts =
      (header ++ [' ', '{']) ++ '\n' :: ((indent ++ joinWith (['\n', '\n'] ++ indent) ts) ++ '\n' :: ['}']) := by
  have hopen : " \x7b\n    ".toList = [' ', '{'] ++ '\n' :: indent := rfl
  have hsep : ruleSeparator = ['\n', '\n'] ++ indent := rfl
  have hclose : "\n\x7d".toList = '\n' :: ['}'] := rfl
  rw [renderBlock, hopen, hsep, hclose]
  simp only [List.append_assoc, List.cons_append]

/-- The braces around the rules of a rebuilt block balance. -/
theorem braceDelta_renderBlock (header : List Char) (ts : List (List Char)) :
    braceDelta (renderBlock header ts) = braceDelta header + depth ts := by
  have e : renderBlock header ts = header ++ [' ', '{'] ++ (['\n'] ++ (indent ++
      joinWith (['\n', '\n'] ++ indent) ts ++ ['\n', '}'])) := by
    rw [renderBlock_eq]
    simp
  have hsep : braceDelta (['\n', '\n'] ++ indent) = 0 := rfl
  have hopen : braceDelta [' ', '{'] = 1 := rfl
  have hclose : braceDelta ['\n', '}'] = -1 := rfl
  have hblank : braceDelta ['\n'] = 0 ∧ braceDelta indent = 0 := ⟨rfl, rfl⟩
  rw [e]
  simp only [braceDelta_append, braceDelta_joinWith hsep, hopen, hclose, hblank.1, hblank.2]
  omega

theorem filledLines_indent {ls : List (List Char)} (hne : ls ≠ [])
    (hf : ∀ l ∈ ls, isBlankText l = false ∧ '\n' ∉ l) :
    filledLines (indent ++ joinWith Layout.body.separator ls) = ls.map (indent ++ ·) := by
  have e : indent ++ joinWith Layout.body.separator ls = joinWith ['\n'] (ls.map (indent ++ ·)) :=
    joinWith_append_sep ['\n'] indent ls hne
  rw [e, filledLines_joinWith, flatMap_filledLines, filled_eq_self]
  · exact List.forall_mem_map.2 fun l hl => by simp [(hf l hl).1]
  · exact List.forall_mem_map.2 fun l hl => by simpa [indent] using (hf l hl).2

theorem map_trim_indent {ls : List (List Char)} (h : ∀ l ∈ ls, trim l = l) :
    (ls.map (indent ++ ·)).map trim = ls := by
  rw [List.map_map]
  refine (List.map_congr_left fun l hl => ?_).trans (List.map_id ls)
  exact (trim_of_blank_append rfl l).trans (h l hl)

/-- The lines between the braces of a rebuilt block that are not blank. -/
theorem filledLines_rules (hne : rules ≠ [])
    (hr : ∀ r ∈ rules, r ≠ [] ∧ ∀ l ∈ r, isBlankText l = false ∧ '\n' ∉ l) :
    filledLines (indent ++ joinWith (['\n', '\n'] ++ indent) (rules.map (joinWith Layout.body.separator))) =
      rules.flatten.map (indent ++ ·) := by
  rw [joinWith_append_sep _ _ _ (by simpa using hne), filledLines_joinWith_blank, List.flatMap_map,
    List.flatMap_map, List.flatMap_congr (fun r hm => filledLines_indent (hr r hm).1 (hr r hm).2),
    List.map_flatten, List.flatMap_def]

/-- The lines of a rebuilt block that are not blank. -/
theorem filledLines_renderBlock (hh : MediaHeader hs hl) (hne : rules ≠ [])
    (hr : ∀ r ∈ rules, r ≠ [] ∧ ∀ l ∈ r, isBlankText l = false ∧ '\n' ∉ l) :
    filledLines (renderBlock (joinWith ['\n'] (hs ++ [hl])) (rules.map (joinWith Layout.body.separator))) =
      blockLines hs hl (rules.flatten.map (indent ++ ·)) := by
  have hopen : filledLines (joinWith ['\n'] (hs ++ [hl]) ++ [' ', '{']) =
      hs ++ [hl ++ [' ', '{']] := by
    have hline := List.forall_mem_append.1 hh.oneLine
    have hfill := List.forall_mem_append.1 hh.filled
    rw [← joinWith_concat_append, filledLines_joinWith, flatMap_filledLines, filled_eq_self]
    · exact List.forall_mem_append.2 ⟨hfill.1, by simpa using fun h => absurd h (by simp [hfill.2 hl (by simp)])⟩
    · exact List.forall_mem_append.2 ⟨hline.1, by simpa using hline.2 hl (by simp)⟩
  have hclose : filledLines ['}'] = [['}']] := rfl
  rw [renderBlock_eq, filledLines_append_newline, filledLines_append_newline, hopen, hclose,
    filledLines_rules hne hr]
  simp [blockLines]

/-- A rebuilt block is cut into its header and what is printed around its rules. -/
theorem ofText?_renderBlock {header : List Char} (ho : '{' ∉ header) (ht : trim header = header)
    (ts : List (List Char)) :
    MediaBlock.ofText? (renderBlock header ts) =
      some ⟨header, trim (indent ++ joinWith (['\n', '\n'] ++ indent) ts)⟩ := by
  have e : renderBlock header ts = (header ++ [' ']) ++
      '{' :: (['\n'] ++ (indent ++ joinWith (['\n', '\n'] ++ indent) ts) ++ ['\n'] ++ '}' :: []) := by
    rw [renderBlock_eq]
    simp
  rw [e, ofText?_append (by simpa using ho) (by simp), trim_append_of_blank rfl, ht,
    trim_append_of_blank rfl, trim_of_blank_append rfl]

end UsedCss.Css
