import Mathlib.Data.List.Flatten
import UsedCss.Proofs.Css.Comment
import UsedCss.Proofs.Css.Rescan
/-!
# Nothing is made up

Reading takes characters away, a scan and a media block pass on what they read in its order, and
what is printed around that is blanks and the braces of the block. So, blanks apart, an output is a
subsequence of what its source has outside of comments. A construct that stays as it stands is a run
of consecutive lines of code of the source, and a part of the output.
-/

namespace UsedCss.Css

open UsedCss.Text

-- `p` is a kind of characters that are not printed between the texts of a sheet.
variable {p : Char → Bool} {target : ClassSet} {layout : Layout} {css o : List Char} {c : Construct}
  {cs : List Construct} {options : FilterOptions}

/-! ## Reading -/

theorem dropReturn_sublist (l : List Char) : (dropReturn l).Sublist l := by
  rcases dropReturn_cases l with e | e
  · rw [e]
  · conv_rhs => rw [e]
    exact List.sublist_append_left _ _

theorem flatten_lines_sublist (cs : List Char) : (lines cs).flatten.Sublist cs := by
  induction cs using lines_induction with
  | single l hl =>
    rw [lines_of_line hl]
    cases l <;> simp
  | cons l rest hl ih =>
    rw [lines_append_newline hl, List.flatten_cons]
    exact (dropReturn_sublist l).append (ih.cons _)

theorem flatten_stripLines_sublist (inside : Bool) (ls : List (List Char)) :
    (stripLines inside ls).flatten.Sublist ls.flatten := by
  induction ls generalizing inside with
  | nil => exact List.Sublist.refl _
  | cons l ls ih => exact (stripLine_sublist inside l).append (ih _)

theorem stripLine_sublist_cutComments (inside : Bool) (l : List Char) :
    (stripLine inside l).1.Sublist (cutComments inside [] l).1 := by
  unfold stripLine
  split
  · next h =>
    rw [Bool.and_eq_true, Bool.not_eq_true', Bool.not_eq_true'] at h
    rw [h.1, cutComments_of_no_comment h.2]
  · exact (trimEnd_isPrefix _).sublist

theorem cutComments_dropReturn (inside : Bool) (l : List Char) :
    (cutComments inside [] (dropReturn l)).1 <+: (cutComments inside [] l).1 ∧
      (cutComments inside [] (dropReturn l)).2 = (cutComments inside [] l).2 := by
  rcases dropReturn_cases l with e | e
  · rw [e]
    exact ⟨List.prefix_rfl, rfl⟩
  · have hcut := cutComments_append_of_blank (w := ['\r']) inside (dropReturn l) rfl
    rw [← e] at hcut
    rw [hcut]
    exact ⟨List.prefix_append _ _, rfl⟩

/-- Comments that are taken out line by line leave no more than comments that are taken out of the
whole text. -/
theorem flatten_stripLines_sublist_cutComments (inside : Bool) (css : List Char) :
    (stripLines inside (lines css)).flatten.Sublist (cutComments inside [] css).1 := by
  induction css using lines_induction generalizing inside with
  | single l hl =>
    rw [lines_of_line hl]
    split
    · exact List.nil_sublist _
    · simpa [stripLines] using stripLine_sublist_cutComments inside l
  | cons l rest hl ih =>
    obtain ⟨hstart, hinside⟩ := cutComments_dropReturn inside l
    have hline := (stripLine_sublist_cutComments inside (dropReturn l)).trans hstart.sublist
    have hsplit := @cutComments_split inside l ('\n' :: rest) (by split <;> simp)
    rw [lines_append_newline hl, stripLines, List.flatten_cons, hsplit,
      (stripLine_cases _ _).1, hinside]
    refine hline.append ((ih _).trans ?_)
    rw [← List.singleton_append, cutComments_blank_append (w := ['\n']) _ _ rfl]
    exact List.sublist_append_right _ _

/-! ## Scanning -/

theorem texts_codeLines_sublist (layout : Layout) (css : List Char) :
    (texts (codeLines layout css)).flatten.Sublist (stripLines false (lines css)).flatten := by
  have hshape : ∀ l, (layout.shape l).Sublist l := fun l => by
    cases layout with
    | sheet => exact List.Sublist.refl l
    | body => exact (trim_isInfix l).sublist
  rw [texts_codeLines, ← List.flatMap_def]
  refine (List.Sublist.flatMap_right (g := id) _ fun l _ => hshape l).trans ?_
  rw [List.flatMap_id]
  exact List.filter_sublist.flatten

/-- The constructs of a scan have no characters but those of its code, in their order. -/
theorem scan_sublist (hsep : layout.separator.filter p = []) (h : scan layout css = .ok cs) :
    ((cs.map Construct.text).flatten.filter p).Sublist
      ((stripLines false (lines css)).flatten.filter p) := by
  obtain ⟨xs, -, hview, hsub⟩ := scan_constructs h
  have htext : cs.map Construct.text = (xs.map Prod.snd).map (joinWith layout.separator) := by
    have := congrArg (List.map Prod.snd) hview
    rw [List.map_map, List.map_map] at this
    rw [List.map_map]
    exact this
  rw [htext, filter_flatten_map_joinWith hsep, ← List.flatMap_def]
  exact (hsub.flatten.trans (texts_codeLines_sublist layout css)).filter p

/-! ## Pruning -/

section
variable (hb : p ' ' = false) (hn : p '\n' = false)
include hb hn

theorem filter_renderBlock (header : List Char) (ts : List (List Char)) :
    (renderBlock header ts).filter p =
      header.filter p ++ (['{'].filter p ++ (ts.flatten.filter p ++ ['}'].filter p)) := by
  have hsep : (['\n', '\n'] ++ indent).filter p = [] := by simp [indent, hb, hn]
  have hindent : indent.filter p = [] := by simp [indent, hb]
  have hspace : [' ', '{'].filter p = ['{'].filter p := by simp [hb]
  have hnewline : ∀ cs, ('\n' :: cs).filter p = cs.filter p := by simp [hn]
  rw [renderBlock_eq, List.filter_append, List.filter_append, hnewline, List.filter_append,
    List.filter_append, hnewline, hindent, filter_joinWith hsep, hspace, List.nil_append,
    List.append_assoc]

/-- What is left of a construct has no characters but those of the construct, in their order. -/
theorem prune_sublist {t : List Char} (h : prune target c = .ok (some t)) :
    (t.filter p).Sublist (c.text.filter p) := by
  rcases prune_eq_ok_iff.1 h with ⟨-, he⟩ | ⟨-, hp⟩
  · split at he
    · cases he
      exact List.Sublist.refl _
    · cases he
  rcases pruneBlock_eq_some hp with ⟨-, rfl⟩ | ⟨-, block, ds, hcut, hs, -, rfl⟩
  · exact List.Sublist.refl _
  -- header, body and the two braces stand apart in the text, and the body is only cut down
  obtain ⟨a, b, r, -, -, e, rfl⟩ := exists_of_ofText? hcut
  have hrules : ((includedRules target ds).flatten.filter p).Sublist (b.filter p) := by
    have hincluded : (includedRules target ds).Sublist (ds.map Construct.text) :=
      List.filter_sublist.map _
    have hscan := scan_sublist (p := p) (by simp [Layout.separator, hb, hn]) hs
    have hread := (flatten_stripLines_sublist false _).trans (flatten_lines_sublist (trim b))
    exact (hincluded.flatten.filter p).trans
      (hscan.trans ((hread.trans (trim_isInfix b).sublist).filter p))
  have hcons : ∀ x cs, (x :: cs).filter p = [x].filter p ++ cs.filter p := fun x cs =>
    List.filter_append [x] cs
  rw [filter_renderBlock hb hn, e, List.filter_append, hcons '{' (b ++ '}' :: r),
    List.filter_append b, hcons '}' r]
  refine ((trim_isInfix a).sublist.filter p).append ((List.Sublist.refl _).append ?_)
  exact hrules.append (List.sublist_append_left _ _)

theorem accepted_sublist {ts : List (Construct.Kind × List Char)} (h : Accepted target cs ts) :
    ((ts.map Prod.snd).flatten.filter p).Sublist ((cs.map Construct.text).flatten.filter p) := by
  induction h with
  | nil => exact List.Sublist.refl _
  | drop _ _ ih =>
    rw [List.map_cons, List.flatten_cons, List.filter_append]
    exact ih.trans (List.sublist_append_right _ _)
  | keep hp _ ih =>
    simp only [List.map_cons, List.flatten_cons, List.filter_append]
    exact (prune_sublist hb hn hp).append ih

/-- A filtered sheet has no characters, blanks apart, but those of the source's code, in their order. -/
theorem output_sublist (h : filter css target { maxBytes := none } = .ok o) :
    (o.filter p).Sublist ((stripLines false (lines css)).flatten.filter p) := by
  obtain ⟨cs, ts, hs, ha, rfl⟩ := filter_eq_ok_iff.1 h
  rw [renderSheet_eq]
  refine ((trim_isInfix _).sublist.filter p).trans ?_
  rw [filter_joinWith (by simp [hn])]
  exact (accepted_sublist hb hn ha).trans (scan_sublist (by simp [Layout.separator, hn]) hs)

end

/-! ## Texts that stay as they stand -/

/-- A rule or a keyframes block is left as it stands, if it is left. -/
theorem eq_text_of_prune {t : List Char} (h : prune target c = .ok (some t))
    (hc : c.kind = .rule ∨ isKeyframesHeader (trimStart c.text) = true) : t = c.text := by
  rcases prune_eq_ok_iff.1 h with ⟨-, he⟩ | ⟨hat, hp⟩
  · split at he
    · exact Option.some.inj he
    · cases he
  · have hk := hc.resolve_left (by simp [hat])
    rw [pruneBlock_keyframes hk] at hp
    cases hp
    rfl

/-- Blanks apart, an output is a subsequence of what its source has outside of comments. A rule or a
keyframes block that is kept is a run of the source's lines of code, and stands in the output, before
that is trimmed, between what is left of the constructs in front of it and of those behind it. -/
theorem filter_verbatim (h : filter css target options = .ok o) :
    (o.filter fun x => !isBlank x).Sublist
      ((cutComments false [] css).1.filter fun x => !isBlank x) ∧
    ∃ cs, scan .sheet css = .ok cs ∧ ∀ before c after t, cs = before ++ c :: after →
      prune target c = .ok (some t) →
      (c.kind = .rule ∨ isKeyframesHeader (trimStart c.text) = true) →
      (∃ ls lead rest, filled (stripLines false (lines css)) = lead ++ (ls ++ rest) ∧
        c.text = joinWith ['\n'] ls ∧ t = joinWith ['\n'] ls) ∧
      ∃ us vs, pruneAll target before = .ok us ∧ pruneAll target after = .ok vs ∧
        o = trim (us.flatMap (· ++ ['\n', '\n']) ++
          (t ++ ['\n', '\n'] ++ vs.flatMap (· ++ ['\n', '\n']))) := by
  have h' := filter_of_options h
  refine ⟨?_, ?_⟩
  · exact (output_sublist (p := fun x => !isBlank x) (by decide) (by decide) h').trans
      ((flatten_stripLines_sublist_cutComments false css).filter _)
  obtain ⟨cs, ws, hs, hws, rfl⟩ := filter_eq_ok_iff_pruneAll.1 h'
  refine ⟨cs, hs, ?_⟩
  rintro before c after t rfl hp hc
  obtain rfl := eq_text_of_prune hp hc
  obtain ⟨lead, ls, rest, hcode, -, -, htext⟩ := exists_lines hs (c := c) (by simp)
  obtain ⟨us, _, hus, hrest, rfl⟩ := pruneAll_append_eq_ok_iff.1 hws
  obtain ⟨r, vs, hr, hvs, rfl⟩ := pruneAll_cons_eq_ok_iff.1 hrest
  cases hp.symm.trans hr
  refine ⟨⟨ls, lead, rest, ?_, htext, htext⟩, us, vs, hus, hvs, ?_⟩
  · rw [← hcode, texts_codeLines]
    exact (List.map_id _).symm
  · rw [renderSheet, List.flatMap_append]
    rfl

/-- A rule with a comment, a media block that is rebuilt, and a keyframes block. -/
theorem filter_verbatim_keyframes :
    filter ".a /* u */ \x7b v \x7d\n@media p \x7b .a \x7b x \x7d \x7d\n@keyframes k \x7b\n y\n\x7d".toList
        (ClassSet.ofList ["a"]) =
      .ok ".a  \x7b v \x7d\n\n@media p \x7b\n    .a \x7b x \x7d\n\x7d\n\n@keyframes k \x7b\n y\n\x7d".toList ∧
    (".a  \x7b v \x7d\n\n@media p \x7b\n    .a \x7b x \x7d\n\x7d\n\n@keyframes k \x7b\n y\n\x7d".toList.filter
      fun x => !isBlank x).Sublist
      (".a  \x7b v \x7d\n@media p \x7b .a \x7b x \x7d \x7d\n@keyframes k \x7b\n y\n\x7d".toList.filter
        fun x => !isBlank x) := by
  have h : filter ".a /* u */ \x7b v \x7d\n@media p \x7b .a \x7b x \x7d \x7d\n@keyframes k \x7b\n y\n\x7d".toList
      (ClassSet.ofList ["a"]) =
    .ok ".a  \x7b v \x7d\n\n@media p \x7b\n    .a \x7b x \x7d\n\x7d\n\n@keyframes k \x7b\n y\n\x7d".toList := by
    decide +kernel
  have hcut : (cutComments false []
      ".a /* u */ \x7b v \x7d\n@media p \x7b .a \x7b x \x7d \x7d\n@keyframes k \x7b\n y\n\x7d".toList).1 =
    ".a  \x7b v \x7d\n@media p \x7b .a \x7b x \x7d \x7d\n@keyframes k \x7b\n y\n\x7d".toList := by
    decide +kernel
  have hsub := (filter_verbatim h).1
  rw [hcut] at hsub
  exact ⟨h, hsub⟩

end UsedCss.Css
